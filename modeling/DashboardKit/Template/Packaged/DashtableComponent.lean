/-!
# Packaged template: the page component of the dashtable kind

The text of the template, line by line.
-/

set_option autoImplicit false

namespace DashboardKit.Template.Packaged

/-- The lines of the template for the page component of the dashtable kind. -/
def dashtableComponent : List String := [
  r##"'use client'"##,
  r##""##,
  r##"import { useState, useEffect } from 'react'"##,
  r##"import { DragDropContext, Droppable, Draggable } from 'react-beautiful-dnd'"##,
  r##"import { GripVertical, RotateCcw, Save, Trash2 } from 'lucide-react'"##,
  r##""##,
  r##"export default function Dashtable({ children, onLayoutChange, initialLayout }) {"##,
  r##"  const [columns, setColumns] = useState(1)"##,
  r##"  const [items, setItems] = useState([])"##,
  r##"  const [isDragging, setIsDragging] = useState(false)"##,
  r##"  const [hasUnsavedChanges, setHasUnsavedChanges] = useState(false)"##,
  r##""##,
  r##"  // Initialize items from children"##,
  r##"  useEffect(() => {"##,
  r##"    if (children) {"##,
  r##"      const childrenArray = Array.isArray(children) ? children : [children]"##,
  r##"      const newItems = childrenArray.map((child, index) => ({"##,
  r##"        id: `item-${index}`,"##,
  r##"        content: child,"##,
  r##"        originalIndex: index"##,
  r##"      }))"##,
  r##"      "##,
  r##"      // Apply initial layout if provided"##,
  r##"      if (initialLayout && initialLayout.length === newItems.length) {"##,
  r##"        const reorderedItems = initialLayout.map(layoutIndex => "##,
  r##"          newItems.find(item => item.originalIndex === layoutIndex)"##,
  r##"        ).filter(Boolean)"##,
  r##"        setItems(reorderedItems)"##,
  r##"      } else {"##,
  r##"        setItems(newItems)"##,
  r##"      }"##,
  r##"    }"##,
  r##"  }, [children, initialLayout])"##,
  r##""##,
  r##"  // Update responsive columns"##,
  r##"  useEffect(() => {"##,
  r##"    const updateColumns = () => {"##,
  r##"      const width = window.innerWidth"##,
  r##"      if (width >= 1536) setColumns(4)"##,
  r##"      else if (width >= 1280) setColumns(3)"##,
  r##"      else if (width >= 1024) setColumns(2)"##,
  r##"      else setColumns(1)"##,
  r##"    }"##,
  r##""##,
  r##"    updateColumns()"##,
  r##"    window.addEventListener('resize', updateColumns)"##,
  r##"    return () => window.removeEventListener('resize', updateColumns)"##,
  r##"  }, [])"##,
  r##""##,
  r##"  const handleDragEnd = (result) => {"##,
  r##"    setIsDragging(false)"##,
  r##"    "##,
  r##"    if (!result.destination) return"##,
  r##""##,
  r##"    const newItems = Array.from(items)"##,
  r##"    const [reorderedItem] = newItems.splice(result.source.index, 1)"##,
  r##"    newItems.splice(result.destination.index, 0, reorderedItem)"##,
  r##""##,
  r##"    setItems(newItems)"##,
  r##"    setHasUnsavedChanges(true)"##,
  r##"    "##,
  r##"    // Call the layout change callback if provided"##,
  r##"    if (onLayoutChange) {"##,
  r##"      const newLayout = newItems.map(item => item.originalIndex)"##,
  r##"      onLayoutChange(newLayout)"##,
  r##"    }"##,
  r##"  }"##,
  r##""##,
  r##"  const handleDragStart = () => {"##,
  r##"    setIsDragging(true)"##,
  r##"  }"##,
  r##""##,
  r##"  const resetLayout = () => {"##,
  r##"    const originalOrder = [...items].sort((a, b) => a.originalIndex - b.originalIndex)"##,
  r##"    setItems(originalOrder)"##,
  r##"    setHasUnsavedChanges(false)"##,
  r##"    "##,
  r##"    if (onLayoutChange) {"##,
  r##"      const originalLayout = originalOrder.map(item => item.originalIndex)"##,
  r##"      onLayoutChange(originalLayout)"##,
  r##"    }"##,
  r##"  }"##,
  r##""##,
  r##"  const saveLayout = () => {"##,
  r##"    setHasUnsavedChanges(false)"##,
  r##"    // In a real app, you might save to localStorage or send to an API"##,
  r##"    console.log('Layout saved:', items.map(item => item.originalIndex))"##,
  r##"  }"##,
  r##""##,
  r##"  const removeItem = (itemId) => {"##,
  r##"    const newItems = items.filter(item => item.id !== itemId)"##,
  r##"    setItems(newItems)"##,
  r##"    setHasUnsavedChanges(true)"##,
  r##"    "##,
  r##"    if (onLayoutChange) {"##,
  r##"      const newLayout = newItems.map(item => item.originalIndex)"##,
  r##"      onLayoutChange(newLayout)"##,
  r##"    }"##,
  r##"  }"##,
  r##""##,
  r##"  return ("##,
  r##"    <div className="w-full min-h-screen bg-gradient-to-br from-gray-900 via-gray-800 to-gray-900 p-4 md:p-6 lg:p-8">"##,
  r##"      <div className="max-w-[2000px] mx-auto">"##,
  r##"        "##,
  r##"        {/* Control Bar */}"##,
  r##"        <div className="mb-6 flex items-center justify-between bg-zinc-950/60 backdrop-blur-xl rounded-2xl border border-zinc-800/50 p-4 shadow-2xl">"##,
  r##"          <div className="flex items-center space-x-4">"##,
  r##"            <div className="flex items-center space-x-2">"##,
  r##"              <GripVertical className="w-5 h-5 text-slate-400" />"##,
  r##"              <span className="text-slate-300 font-medium">Dashboard Layout</span>"##,
  r##"            </div>"##,
  r##"            <div className="text-sm text-slate-400">"##,
  r##"              {items.length} components • {columns} columns"##,
  r##"            </div>"##,
  r##"          </div>"##,
  r##"          "##,
  r##"          <div className="flex items-center space-x-2">"##,
  r##"            {hasUnsavedChanges && ("##,
  r##"              <div className="flex items-center space-x-2">"##,
  r##"                <div className="w-2 h-2 bg-amber-400 rounded-full animate-pulse"></div>"##,
  r##"                <span className="text-amber-400 text-sm font-medium">Unsaved changes</span>"##,
  r##"              </div>"##,
  r##"            )}"##,
  r##"            "##,
  r##"            <button"##,
  r##"              onClick={resetLayout}"##,
  r##"              className="flex items-center space-x-2 px-3 py-2 bg-slate-700/50 hover:bg-slate-600/50 text-slate-300 rounded-lg transition-colors duration-200""##,
  r##"              title="Reset to original layout""##,
  r##"            >"##,
  r##"              <RotateCcw className="w-4 h-4" />"##,
  r##"              <span className="hidden sm:inline">Reset</span>"##,
  r##"            </button>"##,
  r##"            "##,
  r##"            <button"##,
  r##"              onClick={saveLayout}"##,
  r##"              disabled={!hasUnsavedChanges}"##,
  r##"              className={`flex items-center space-x-2 px-3 py-2 rounded-lg transition-colors duration-200 ${"##,
  r##"                hasUnsavedChanges "##,
  r##"                  ? 'bg-emerald-600/50 hover:bg-emerald-500/50 text-emerald-300' "##,
  r##"                  : 'bg-slate-700/30 text-slate-500 cursor-not-allowed'"##,
  r##"              }`}"##,
  r##"              title="Save current layout""##,
  r##"            >"##,
  r##"              <Save className="w-4 h-4" />"##,
  r##"              <span className="hidden sm:inline">Save</span>"##,
  r##"            </button>"##,
  r##"          </div>"##,
  r##"        </div>"##,
  r##""##,
  r##"        {/* Draggable Grid */}"##,
  r##"        <DragDropContext onDragEnd={handleDragEnd} onDragStart={handleDragStart}>"##,
  r##"          <Droppable droppableId="dashboard">"##,
  r##"            {(provided, snapshot) => ("##,
  r##"              <div"##,
  r##"                {...provided.droppableProps}"##,
  r##"                ref={provided.innerRef}"##,
  r##"                className={`grid gap-4 md:gap-6 lg:gap-8 transition-all duration-200 ${"##,
  r##"                  snapshot.isDraggingOver ? 'bg-cyan-500/5 rounded-2xl p-4' : ''"##,
  r##"                }`}"##,
  r##"                style={{"##,
  r##"                  gridTemplateColumns: `repeat(${columns}, minmax(0, 1fr))`"##,
  r##"                }}"##,
  r##"              >"##,
  r##"                {items.map((item, index) => ("##,
  r##"                  <Draggable key={item.id} draggableId={item.id} index={index}>"##,
  r##"                    {(provided, snapshot) => ("##,
  r##"                      <div"##,
  r##"                        ref={provided.innerRef}"##,
  r##"                        {...provided.draggableProps}"##,
  r##"                        className={`relative group transition-all duration-200 ${"##,
  r##"                          snapshot.isDragging "##,
  r##"                            ? 'scale-105 rotate-2 z-50 shadow-2xl' "##,
  r##"                            : isDragging "##,
  r##"                              ? 'scale-95 opacity-80' "##,
  r##"                              : 'hover:scale-[1.02]'"##,
  r##"                        }`}"##,
  r##"                        style={{"##,
  r##"                          transform: snapshot.isDragging "##,
  r##"                            ? `${provided.draggableProps.style?.transform} rotate(2deg)` "##,
  r##"                            : provided.draggableProps.style?.transform,"##,
  r##"                          ...provided.draggableProps.style"##,
  r##"                        }}"##,
  r##"                      >"##,
  r##"                        {/* Drag Handle */}"##,
  r##"                        <div"##,
  r##"                          {...provided.dragHandleProps}"##,
  r##"                          className={`absolute -top-2 -right-2 z-10 w-8 h-8 bg-slate-800/90 backdrop-blur-sm border border-slate-600/50 rounded-full flex items-center justify-center cursor-grab active:cursor-grabbing transition-all duration-200 ${"##,
  r##"                            snapshot.isDragging || isDragging"##,
  r##"                              ? 'opacity-100 scale-110' "##,
  r##"                              : 'opacity-0 group-hover:opacity-100 scale-90 group-hover:scale-100'"##,
  r##"                          }`}"##,
  r##"                          title="Drag to reorder""##,
  r##"                        >"##,
  r##"                          <GripVertical className="w-4 h-4 text-slate-400" />"##,
  r##"                        </div>"##,
  r##""##,
  r##"                        {/* Delete Button */}"##,
  r##"                        <button"##,
  r##"                          onClick={() => removeItem(item.id)}"##,
  r##"                          className={`absolute -top-2 -left-2 z-10 w-8 h-8 bg-red-600/90 backdrop-blur-sm border border-red-500/50 rounded-full flex items-center justify-center cursor-pointer transition-all duration-200 hover:bg-red-500/90 ${"##,
  r##"                            snapshot.isDragging || isDragging"##,
  r##"                              ? 'opacity-100 scale-110' "##,
  r##"                              : 'opacity-0 group-hover:opacity-100 scale-90 group-hover:scale-100'"##,
  r##"                          }`}"##,
  r##"                          title="Remove component""##,
  r##"                        >"##,
  r##"                          <Trash2 className="w-4 h-4 text-white" />"##,
  r##"                        </button>"##,
  r##""##,
  r##"                        {/* Dragging Overlay */}"##,
  r##"                        {snapshot.isDragging && ("##,
  r##"                          <div className="absolute inset-0 bg-gradient-to-r from-cyan-500/20 via-blue-500/20 to-purple-500/20 rounded-3xl border-2 border-cyan-400/50 pointer-events-none animate-pulse">"##,
  r##"                            <div className="absolute inset-0 bg-gradient-to-r from-cyan-400/10 to-blue-400/10 rounded-3xl blur-xl"></div>"##,
  r##"                          </div>"##,
  r##"                        )}"##,
  r##""##,
  r##"                        {/* Component Content */}"##,
  r##"                        <div className={`transition-all duration-200 ${"##,
  r##"                          snapshot.isDragging ? 'pointer-events-none' : ''"##,
  r##"                        }`}>"##,
  r##"                          {item.content}"##,
  r##"                        </div>"##,
  r##"                      </div>"##,
  r##"                    )}"##,
  r##"                  </Draggable>"##,
  r##"                ))}"##,
  r##"                {provided.placeholder}"##,
  r##"              </div>"##,
  r##"            )}"##,
  r##"          </Droppable>"##,
  r##"        </DragDropContext>"##,
  r##""##,
  r##"        {/* Empty State */}"##,
  r##"        {items.length === 0 && ("##,
  r##"          <div className="text-center py-16">"##,
  r##"            <div className="text-slate-500 text-lg mb-2">No components to display</div>"##,
  r##"            <div className="text-slate-600 text-sm">Add some dashboard components to get started</div>"##,
  r##"          </div>"##,
  r##"        )}"##,
  r##"        "##,
  r##"        {/* Drag Instructions */}"##,
  r##"        {items.length > 1 && !isDragging && ("##,
  r##"          <div className="mt-8 text-center">"##,
  r##"            <div className="inline-flex items-center space-x-2 px-4 py-2 bg-slate-800/30 rounded-lg text-slate-400 text-sm">"##,
  r##"              <GripVertical className="w-4 h-4" />"##,
  r##"              <span>Hover over cards and drag the handles to reorder</span>"##,
  r##"            </div>"##,
  r##"          </div>"##,
  r##"        )}"##,
  r##"      </div>"##,
  r##"    </div>"##,
  r##"  )"##,
  r##"}"##]

end DashboardKit.Template.Packaged
