/-!
# Packaged template: the page component of the chart kind

The text of the template, line by line.
-/

set_option autoImplicit false

namespace DashboardKit.Template.Packaged

/-- The lines of the template for the page component of the chart kind. -/
def chartComponent : List String := [
  r##"'use client'"##,
  r##""##,
  r##"import { useState, useEffect } from 'react'"##,
  r##"import { $&icon$&, Wifi, WifiOff, Database, DatabaseZap, Activity, TrendingUp, BarChart3 } from 'lucide-react'"##,
  r##"import { LineChart, Line, XAxis, YAxis, CartesianGrid, Tooltip, ResponsiveContainer } from 'recharts'"##,
  r##""##,
  r##"const MAX_POINTS = 300"##,
  r##""##,
  r##"export default function $&componentName$&() {"##,
  r##"  const [data, setData] = useState(null) "##,
  r##"  const [loading, setLoading] = useState(true)"##,
  r##"  const [timeAgo, setTimeAgo] = useState('')"##,
  r##""##,
  r##"  useEffect(() => {"##,
  r##"    const initializeWithFullData = async () => {"##,
  r##"      try {"##,
  r##"        const response = await fetch('/api/microlab/$&componentApi$&')"##,
  r##"        const result = await response.json()"##,
  r##"        setData(result)"##,
  r##"        setLoading(false)"##,
  r##"        "##,
  r##"        console.log('$&componentName$& Initial data loaded:', result.data.length, 'points')"##,
  r##"        "##,
  r##"        const interval = setInterval(async () => {"##,
  r##"          try {"##,
  r##"            if (result.data.length > 0) {"##,
  r##"              const sortedData = [...result.data].sort((a, b) => new Date(b.timestamp) - new Date(a.timestamp))"##,
  r##"              const lastTimestamp = sortedData[0]?.timestamp"##,
  r##"              "##,
  r##"              if (lastTimestamp) {"##,
  r##""##,
  r##"                const incrementalResponse = await fetch(`/api/microlab/$&componentApi$&?since=${lastTimestamp}`)"##,
  r##"                const incrementalResult = await incrementalResponse.json()"##,
  r##"                "##,
  r##"                if (incrementalResult.isIncremental && incrementalResult.data.length > 0) {"##,
  r##"                  setData(prev => ({"##,
  r##"                    ...incrementalResult,"##,
  r##"                    data: maintainArraySize(prev.data, incrementalResult.data)"##,
  r##"                  }))"##,
  r##"                }"##,
  r##"              }"##,
  r##"            }"##,
  r##"          } catch (error) {"##,
  r##"            console.error('$&componentName$& Polling error:', error)"##,
  r##"          }"##,
  r##"        }, $&pollingInterval$&)"##,
  r##"        "##,
  r##"        return () => clearInterval(interval)"##,
  r##"        "##,
  r##"      } catch (error) {"##,
  r##"        console.error('$&componentName$& Chart Failed to fetch initial data:', error)"##,
  r##"        setLoading(false)"##,
  r##"      }"##,
  r##"    }"##,
  r##""##,
  r##"    initializeWithFullData()"##,
  r##"  }, []) "##,
  r##""##,
  r##"  const maintainArraySize = (currentData, newData) => {"##,
  r##"    const combined = [...currentData, ...newData]"##,
  r##"    "##,
  r##"    combined.sort((a, b) => new Date(a.timestamp) - new Date(b.timestamp))"##,
  r##"    "##,
  r##"    const unique = combined.filter((item, index, arr) => "##,
  r##"      index === arr.findIndex(t => t.timestamp === item.timestamp)"##,
  r##"    )"##,
  r##"    "##,
  r##"    if (unique.length > MAX_POINTS) {"##,
  r##"      return unique.slice(-MAX_POINTS)"##,
  r##"    }"##,
  r##"    "##,
  r##"    return unique"##,
  r##"  }"##,
  r##""##,
  r##"  useEffect(() => {"##,
  r##"    if (!data) return"##,
  r##"    "##,
  r##"    const updateTimeAgo = () => {"##,
  r##"      const now = new Date()"##,
  r##"      const date = new Date(data.current.timestamp)"##,
  r##"      const diffMs = now - date"##,
  r##"      const diffSeconds = Math.floor(diffMs / 1000)"##,
  r##"      const diffMins = Math.floor(diffMs / 60000)"##,
  r##"      const diffHours = Math.floor(diffMs / 3600000)"##,
  r##""##,
  r##"      if (diffSeconds < 60) {"##,
  r##"        setTimeAgo(diffSeconds < 1 ? 'now' : `${diffSeconds}s`)"##,
  r##"      } else if (diffMins < 60) {"##,
  r##"        setTimeAgo(`${diffMins}m`)"##,
  r##"      } else if (diffHours === 1) {"##,
  r##"        setTimeAgo('1h')"##,
  r##"      } else {"##,
  r##"        setTimeAgo(date.toLocaleString([], { "##,
  r##"          month: 'short', "##,
  r##"          day: 'numeric', "##,
  r##"          hour: '2-digit', "##,
  r##"          minute: '2-digit' "##,
  r##"        }))"##,
  r##"      }"##,
  r##"    }"##,
  r##""##,
  r##"    updateTimeAgo()"##,
  r##"    const interval = setInterval(updateTimeAgo, 1000)"##,
  r##"    return () => clearInterval(interval)"##,
  r##"  }, [data?.current.timestamp])"##,
  r##""##,
  r##"  if (loading || !data) {"##,
  r##"    return ("##,
  r##"      <div className="bg-zinc-950/80 backdrop-blur-2xl rounded-3xl border border-zinc-800/50 p-6 shadow-2xl w-[400px] flex items-center justify-center">"##,
  r##"        <div className="relative">"##,
  r##"          <div className="animate-spin rounded-full h-12 w-12 border border-cyan-500/20">"##,
  r##"            <div className="absolute inset-1 rounded-full border-t-2 border-cyan-400 animate-spin" style={{animationDuration: '0.8s'}}></div>"##,
  r##"          </div>"##,
  r##"          <div className="absolute inset-0 rounded-full bg-cyan-500/10 blur-xl animate-pulse"></div>"##,
  r##"        </div>"##,
  r##"      </div>"##,
  r##"    )"##,
  r##"  }"##,
  r##""##,
  r##"  const getStatusColor = () => {"##,
  r##"    switch (data.current.status) {"##,
  r##"      case 'live': return { "##,
  r##"        bg: 'from-emerald-500 via-teal-500 to-cyan-500', "##,
  r##"        glow: 'shadow-emerald-500/30',"##,
  r##"        pulse: 'animate-pulse'"##,
  r##"      }"##,
  r##"      case 'cached': return { "##,
  r##"        bg: 'from-amber-500 via-orange-500 to-yellow-500', "##,
  r##"        glow: 'shadow-amber-500/30',"##,
  r##"        pulse: ''"##,
  r##"      }"##,
  r##"      case 'stale': return { "##,
  r##"        bg: 'from-red-500 via-rose-500 to-pink-500', "##,
  r##"        glow: 'shadow-red-500/30',"##,
  r##"        pulse: ''"##,
  r##"      }"##,
  r##"      default: return { "##,
  r##"        bg: 'from-slate-600 via-slate-500 to-slate-600', "##,
  r##"        glow: 'shadow-slate-500/20',"##,
  r##"        pulse: ''"##,
  r##"      }"##,
  r##"    }"##,
  r##"  }"##,
  r##""##,
  r##"  const getStatusText = () => {"##,
  r##"    switch (data.current.status) {"##,
  r##"      case 'live': return 'LIVE'"##,
  r##"      case 'cached': return 'CACHE'"##,
  r##"      case 'stale': return 'STALE'"##,
  r##"      default: return 'UNKNOWN'"##,
  r##"    }"##,
  r##"  }"##,
  r##""##,
  r##"  const formatTooltipTime = (timestamp) => {"##,
  r##"    const date = new Date(timestamp)"##,
  r##"    return date.toLocaleString([], {"##,
  r##"      month: 'short',"##,
  r##"      day: 'numeric',"##,
  r##"      hour: '2-digit',"##,
  r##"      minute: '2-digit',"##,
  r##"      second: '2-digit'"##,
  r##"    })"##,
  r##"  }"##,
  r##""##,
  r##"  const formatXAxisTime = (timestamp) => {"##,
  r##"    const date = new Date(timestamp)"##,
  r##"    const now = new Date()"##,
  r##"    const diffHours = (now - date) / (1000 * 60 * 60)"##,
  r##"    "##,
  r##"    if (diffHours < 1) {"##,
  r##"      return date.toLocaleTimeString([], { hour: '2-digit', minute: '2-digit' })"##,
  r##"    } else if (diffHours < 24) {"##,
  r##"      return date.toLocaleTimeString([], { hour: '2-digit', minute: '2-digit' })"##,
  r##"    } else {"##,
  r##"      return date.toLocaleDateString([], { month: 'short', day: 'numeric' })"##,
  r##"    }"##,
  r##"  }"##,
  r##""##,
  r##"  const getMinMax = () => {"##,
  r##"    if (data.data.length === 0) return { min: 0, max: 100 }"##,
  r##"    "##,
  r##"    const values = data.data.map(d => d.value)"##,
  r##"    const min = Math.min(...values)"##,
  r##"    const max = Math.max(...values)"##,
  r##"    const padding = (max - min) * 0.1 || 1"##,
  r##"    "##,
  r##"    return {"##,
  r##"      min: Math.max(0, min - padding),"##,
  r##"      max: max + padding"##,
  r##"    }"##,
  r##"  }"##,
  r##""##,
  r##"  const { min, max } = getMinMax()"##,
  r##"  const statusStyle = getStatusColor()"##,
  r##""##,
  r##"  return ("##,
  r##"    <div className="bg-zinc-950/80 backdrop-blur-2xl rounded-3xl border border-zinc-800/50 p-3 shadow-2xl w-[600px] flex flex-col">"##,
  r##"      "##,
  r##"      <div className="flex items-center justify-between mb-3 flex-shrink-0">"##,
  r##"        <div className="flex items-center space-x-3">"##,
  r##"          <div className="relative group">"##,
  r##"            <div className={`relative p-2 rounded-full bg-gradient-to-r ${statusStyle.bg}`}>"##,
  r##"              <$&icon$& className="w-7 h-7 text-white" />"##,
  r##"            </div>"##,
  r##"          </div>"##,
  r##"          <div>"##,
  r##"            <h1 className="text-3xl font-black text-white tracking-tight">$&label$&</h1>"##,
  r##"            <div className="flex items-center space-x-4">"##,
  r##"              <div className="text-3xl font-black text-white">"##,
  r##"                {data.current.value.toFixed(1)}"##,
  r##"                <span className="text-lg text-slate-400 ml-2">$&unit$&</span>"##,
  r##"              </div>"##,
  r##"              <div className="flex items-center space-x-1 text-slate-400 text-sm">"##,
  r##"                <BarChart3 className="w-4 h-4" />"##,
  r##"                <span>{data.data.length} pts</span>"##,
  r##"              </div>"##,
  r##"            </div>"##,
  r##"          </div>"##,
  r##"        </div>"##,
  r##"        "##,
  r##"        <div className="flex items-center space-x-3">"##,
  r##"          <div className="flex items-center space-x-2">"##,
  r##"            <div className="flex items-center space-x-3">"##,
  r##"              <div className="w-2 h-2 bg-slate-400 rounded-full animate-pulse"></div>"##,
  r##"                <span className="text-slate-400 text-sm font-medium uppercase tracking-wider">"##,
  r##"                  {timeAgo}"##,
  r##"                </span>"##,
  r##"            </div>"##,
  r##"            {data.current.mqttConnected ? ("##,
  r##"              <div className="relative">"##,
  r##"                <Wifi className="w-5 h-5 text-emerald-400 drop-shadow-lg" />"##,
  r##"                <div className="absolute -inset-1 bg-emerald-400/20 rounded-full blur animate-pulse"></div>"##,
  r##"              </div>"##,
  r##"            ) : ("##,
  r##"              <WifiOff className="w-5 h-5 text-slate-500/70" />"##,
  r##"            )}"##,
  r##"            "##,
  r##"            {data.current.dbConnected ? ("##,
  r##"              <div className="relative">"##,
  r##"                <DatabaseZap className="w-5 h-5 text-emerald-400 drop-shadow-lg" />"##,
  r##"                <div className="absolute -inset-1 bg-cyan-400/20 rounded-full blur animate-pulse"></div>"##,
  r##"              </div>"##,
  r##"            ) : ("##,
  r##"              <Database className="w-5 h-5 text-slate-500/70" />"##,
  r##"            )}"##,
  r##"          </div>"##,
  r##"          "##,
  r##"          <div className={`flex items-center px-3 py-1 rounded-lg bg-gradient-to-r ${statusStyle.bg} text-white text-xs font-bold uppercase tracking-widest shadow-lg ${statusStyle.glow} ${statusStyle.pulse}`}>"##,
  r##"            <Activity className="w-3 h-3 mr-1" />"##,
  r##"            {getStatusText()}"##,
  r##"          </div>"##,
  r##"        </div>"##,
  r##"      </div>"##,
  r##""##,
  r##"      <div className="flex-1 min-h-0">"##,
  r##"        <ResponsiveContainer width="100%" height="100%">"##,
  r##"            <LineChart data={data.data} margin={{ top: 5, right: 10, left: 5, bottom: 15 }}>"##,
  r##"                <defs>"##,
  r##"                <linearGradient id="gradient" x1="0%" y1="0%" x2="100%" y2="0%">"##,
  r##"                    <stop offset="0%" stopColor="#06B6D4" />"##,
  r##"                    <stop offset="30%" stopColor="#0891B2" />"##,
  r##"                    <stop offset="70%" stopColor="#0E7490" />"##,
  r##"                    <stop offset="100%" stopColor="#164E63" />"##,
  r##"                </linearGradient>"##,
  r##"                <linearGradient id="areaGradient" x1="0%" y1="0%" x2="0%" y2="100%">"##,
  r##"                    <stop offset="0%" stopColor="#06B6D4" stopOpacity={0.3} />"##,
  r##"                    <stop offset="50%" stopColor="#0891B2" stopOpacity={0.1} />"##,
  r##"                    <stop offset="100%" stopColor="#0E7490" stopOpacity={0.05} />"##,
  r##"                </linearGradient>"##,
  r##"                <filter id="glow">"##,
  r##"                    <feGaussianBlur stdDeviation="3" result="coloredBlur"/>"##,
  r##"                    <feMerge> "##,
  r##"                    <feMergeNode in="coloredBlur"/>"##,
  r##"                    <feMergeNode in="SourceGraphic"/>"##,
  r##"                    </feMerge>"##,
  r##"                </filter>"##,
  r##"                </defs>"##,
  r##"                <CartesianGrid "##,
  r##"                strokeDasharray="2 4" "##,
  r##"                stroke="#374151" "##,
  r##"                opacity={0.2}"##,
  r##"                horizontal={true}"##,
  r##"                vertical={false}"##,
  r##"                />"##,
  r##"                <XAxis "##,
  r##"                dataKey="timestamp""##,
  r##"                tickFormatter={formatXAxisTime}"##,
  r##"                stroke="#6B7280""##,
  r##"                fontSize={11}"##,
  r##"                tickLine={false}"##,
  r##"                axisLine={false}"##,
  r##"                tick={{ fill: '#9CA3AF', fontSize: 11 }}"##,
  r##"                tickCount={6}"##,
  r##"                interval="preserveStartEnd""##,
  r##"                minTickGap={20}"##,
  r##"                />"##,
  r##"                <YAxis "##,
  r##"                domain={[min, max]}"##,
  r##"                stroke="#6B7280""##,
  r##"                fontSize={11}"##,
  r##"                tickLine={false}"##,
  r##"                axisLine={false}"##,
  r##"                tick={{ fill: '#9CA3AF', fontSize: 11 }}"##,
  r##"                tickFormatter={(value) => value.toFixed(1)}"##,
  r##"                width={35}"##,
  r##"                />"##,
  r##"                <Tooltip "##,
  r##"                contentStyle={{"##,
  r##"                    backgroundColor: 'rgba(24, 24, 27, 0.95)',"##,
  r##"                    border: '1px solid #52525B',"##,
  r##"                    borderRadius: '16px',"##,
  r##"                    color: '#F8FAFC',"##,
  r##"                    fontSize: '12px',"##,
  r##"                    boxShadow: '0 20px 40px rgba(0,0,0,0.6), 0 0 20px rgba(6, 182, 212, 0.1)',"##,
  r##"                    backdropFilter: 'blur(12px)',"##,
  r##"                    padding: '12px 16px'"##,
  r##"                }}"##,
  r##"                labelStyle={{"##,
  r##"                    color: '#CBD5E1',"##,
  r##"                    fontSize: '11px',"##,
  r##"                    fontWeight: '500',"##,
  r##"                    marginBottom: '4px'"##,
  r##"                }}"##,
  r##"                itemStyle={{"##,
  r##"                    color: '#06B6D4',"##,
  r##"                    fontSize: '13px',"##,
  r##"                    fontWeight: '600'"##,
  r##"                }}"##,
  r##"                labelFormatter={(value) => formatTooltipTime(value)}"##,
  r##"                formatter={(value) => [`${value.toFixed(2)} $&unit$&`, '$&label$&']}"##,
  r##"                cursor={{"##,
  r##"                    stroke: '#06B6D4',"##,
  r##"                    strokeWidth: 1,"##,
  r##"                    strokeDasharray: '4 4',"##,
  r##"                    opacity: 0.6"##,
  r##"                }}"##,
  r##"                />"##,
  r##"                <Line "##,
  r##"                type="monotone" "##,
  r##"                dataKey="value" "##,
  r##"                stroke="url(#gradient)""##,
  r##"                strokeWidth={3}"##,
  r##"                dot={false}"##,
  r##"                isAnimationActive={true}"##,
  r##"                animationDuration={2000}"##,
  r##"                animationBegin={0}"##,
  r##"                filter="url(#glow)""##,
  r##"                activeDot={{ "##,
  r##"                    r: 5, "##,
  r##"                    fill: '#06B6D4',"##,
  r##"                    stroke: '#ffffff',"##,
  r##"                    strokeWidth: 2,"##,
  r##"                    filter: 'drop-shadow(0 0 8px rgba(6, 182, 212, 0.6))'"##,
  r##"                }}"##,
  r##"                />"##,
  r##"            </LineChart>"##,
  r##"        </ResponsiveContainer>"##,
  r##"      </div>"##,
  r##"    </div>"##,
  r##"  )"##,
  r##"}"##]

end DashboardKit.Template.Packaged
