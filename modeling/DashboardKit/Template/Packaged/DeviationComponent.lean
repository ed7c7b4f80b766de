/-!
# Packaged template: the page component of the deviation kind

The text of the template, line by line.
-/

set_option autoImplicit false

namespace DashboardKit.Template.Packaged

/-- The lines of the template for the page component of the deviation kind. -/
def deviationComponent : List String := [
  r##"'use client'"##,
  r##""##,
  r##"import { useState, useEffect } from 'react'"##,
  r##"import { $&icon$&, Wifi, WifiOff, Database, DatabaseZap, Activity, Target, TrendingUp, TrendingDown } from 'lucide-react'"##,
  r##""##,
  r##"export default function $&componentName$&() {"##,
  r##"  const [data, setData] = useState({"##,
  r##"    value: 0,"##,
  r##"    setpoint: $&setpoint$&,"##,
  r##"    deviation: 0,"##,
  r##"    timestamp: new Date().toISOString(),"##,
  r##"    status: 'stale',"##,
  r##"    mqttConnected: false,"##,
  r##"    dbConnected: false"##,
  r##"  })"##,
  r##"  const [loading, setLoading] = useState(true)"##,
  r##"  const [timeAgo, setTimeAgo] = useState('')"##,
  r##""##,
  r##"  useEffect(() => {"##,
  r##"    const fetchData = async () => {"##,
  r##"      try {"##,
  r##"        const response = await fetch('/api/microlab/$&componentApi$&')"##,
  r##"        const result = await response.json()"##,
  r##"        setData(result)"##,
  r##"      } catch (error) {"##,
  r##"        console.error('$&componentName$& Failed to fetch data:', error)"##,
  r##"      } finally {"##,
  r##"        setLoading(false)"##,
  r##"      }"##,
  r##"    }"##,
  r##""##,
  r##"    fetchData()"##,
  r##"    const interval = setInterval(fetchData, $&pollingInterval$&)"##,
  r##"    return () => clearInterval(interval)"##,
  r##"  }, [])"##,
  r##""##,
  r##"  useEffect(() => {"##,
  r##"    const updateTimeAgo = () => {"##,
  r##"      const now = new Date()"##,
  r##"      const date = new Date(data.timestamp)"##,
  r##"      const diffMs = now - date"##,
  r##"      const diffSeconds = Math.floor(diffMs / 1000)"##,
  r##"      const diffMins = Math.floor(diffMs / 60000)"##,
  r##"      const diffHours = Math.floor(diffMs / 3600000)"##,
  r##""##,
  r##"      if (diffSeconds < 60) {"##,
  r##"        setTimeAgo(diffSeconds < 1 ? 'now' : `${diffSeconds}s`)"##,
  r##"      } else if (diffMins < 60) {"##,
  r##"        setTimeAgo(`${diffMins}m`)"##,
  r##"      } else if (diffHours === 1) {"##,
  r##"        setTimeAgo('1h')"##,
  r##"      } else {"##,
  r##"        setTimeAgo(date.toLocaleString([], { "##,
  r##"          month: 'short', "##,
  r##"          day: 'numeric', "##,
  r##"          hour: '2-digit', "##,
  r##"          minute: '2-digit' "##,
  r##"        }))"##,
  r##"      }"##,
  r##"    }"##,
  r##""##,
  r##"    updateTimeAgo()"##,
  r##"    const interval = setInterval(updateTimeAgo, 1000)"##,
  r##"    return () => clearInterval(interval)"##,
  r##"  }, [data.timestamp])"##,
  r##""##,
  r##"  const getStatusColor = () => {"##,
  r##"    switch (data.status) {"##,
  r##"      case 'live': return { "##,
  r##"        bg: 'from-emerald-500 via-teal-500 to-cyan-500', "##,
  r##"        glow: 'shadow-emerald-500/30',"##,
  r##"        pulse: 'animate-pulse'"##,
  r##"      }"##,
  r##"      case 'cached': return { "##,
  r##"        bg: 'from-amber-500 via-orange-500 to-yellow-500', "##,
  r##"        glow: 'shadow-amber-500/30',"##,
  r##"        pulse: ''"##,
  r##"      }"##,
  r##"      case 'stale': return { "##,
  r##"        bg: 'from-red-500 via-rose-500 to-pink-500', "##,
  r##"        glow: 'shadow-red-500/30',"##,
  r##"        pulse: ''"##,
  r##"      }"##,
  r##"      default: return { "##,
  r##"        bg: 'from-slate-600 via-slate-500 to-slate-600', "##,
  r##"        glow: 'shadow-slate-500/20',"##,
  r##"        pulse: ''"##,
  r##"      }"##,
  r##"    }"##,
  r##"  }"##,
  r##""##,
  r##"  const getStatusText = () => {"##,
  r##"    switch (data.status) {"##,
  r##"      case 'live': return 'LIVE'"##,
  r##"      case 'cached': return 'CACHE'"##,
  r##"      case 'stale': return 'STALE'"##,
  r##"      default: return 'UNKNOWN'"##,
  r##"    }"##,
  r##"  }"##,
  r##""##,
  r##"  const getDeviationColor = () => {"##,
  r##"    const absDeviation = Math.abs(data.deviation)"##,
  r##"    if (absDeviation < 1) return 'text-emerald-400'"##,
  r##"    if (absDeviation < 5) return 'text-amber-400'"##,
  r##"    return 'text-red-400'"##,
  r##"  }"##,
  r##""##,
  r##"  const getDeviationBgColor = () => {"##,
  r##"    const absDeviation = Math.abs(data.deviation)"##,
  r##"    if (absDeviation < 1) return 'from-emerald-500/20 to-emerald-600/20'"##,
  r##"    if (absDeviation < 5) return 'from-amber-500/20 to-amber-600/20'"##,
  r##"    return 'from-red-500/20 to-red-600/20'"##,
  r##"  }"##,
  r##""##,
  r##"  const getSliderPosition = () => {"##,
  r##"    const maxDeviation = $&maxDeviation$& || 10"##,
  r##"    const absDeviation = Math.abs(data.deviation)"##,
  r##"    "##,
  r##"    if (absDeviation === 0) return 50"##,
  r##"    "##,
  r##"    const logScale = Math.log(1 + absDeviation) / Math.log(1 + maxDeviation) * 50"##,
  r##"    "##,
  r##"    return data.deviation > 0 ? 50 + logScale : 50 - logScale"##,
  r##"  }"##,
  r##""##,
  r##"  const sliderPosition = getSliderPosition()"##,
  r##""##,
  r##"  if (loading) {"##,
  r##"    return ("##,
  r##"      <div className="bg-zinc-950/80 backdrop-blur-2xl rounded-3xl border border-zinc-800/50 p-6 shadow-2xl w-[400px] flex items-center justify-center">"##,
  r##"        <div className="relative">"##,
  r##"          <div className="animate-spin rounded-full h-12 w-12 border border-cyan-500/20">"##,
  r##"            <div className="absolute inset-1 rounded-full border-t-2 border-cyan-400 animate-spin" style={{animationDuration: '0.8s'}}></div>"##,
  r##"          </div>"##,
  r##"          <div className="absolute inset-0 rounded-full bg-cyan-500/10 blur-xl animate-pulse"></div>"##,
  r##"        </div>"##,
  r##"      </div>"##,
  r##"    )"##,
  r##"  }"##,
  r##""##,
  r##"  const statusStyle = getStatusColor()"##,
  r##""##,
  r##"  return ("##,
  r##"    <div className="bg-zinc-950/80 backdrop-blur-2xl rounded-3xl border border-zinc-800/50 p-3 shadow-2xl w-[400px]">"##,
  r##"      "##,
  r##"      <div className="flex items-center justify-between mb-3 gap-6">"##,
  r##"        <div className="flex items-center space-x-3">"##,
  r##"          <div className="relative group">"##,
  r##"            <div className={`relative p-2 rounded-full bg-gradient-to-r ${statusStyle.bg}`}>"##,
  r##"              <$&icon$& className="w-7 h-7 text-white" />"##,
  r##"            </div>"##,
  r##"          </div>"##,
  r##"          <div>"##,
  r##"            <h1 className="text-3xl font-black text-white tracking-tight">$&label$&</h1>"##,
  r##"          </div>"##,
  r##"        </div>"##,
  r##"        "##,
  r##"        <div className="flex items-center space-x-2">"##,
  r##"          {data.mqttConnected ? ("##,
  r##"            <div className="relative">"##,
  r##"              <Wifi className="w-6 h-6 text-emerald-400 drop-shadow-lg" />"##,
  r##"              <div className="absolute -inset-1 bg-emerald-400/20 rounded-full blur animate-pulse"></div>"##,
  r##"            </div>"##,
  r##"          ) : ("##,
  r##"            <WifiOff className="w-6 h-6 text-slate-500/70" />"##,
  r##"          )}"##,
  r##"          "##,
  r##"          {data.dbConnected ? ("##,
  r##"            <div className="relative">"##,
  r##"              <DatabaseZap className="w-6 h-6 text-emerald-400 drop-shadow-lg" />"##,
  r##"              <div className="absolute -inset-1 bg-cyan-400/20 rounded-full blur animate-pulse"></div>"##,
  r##"            </div>"##,
  r##"          ) : ("##,
  r##"            <Database className="w-6 h-6 text-slate-500/70" />"##,
  r##"          )}"##,
  r##"        </div>"##,
  r##"      </div>"##,
  r##""##,
  r##"      <div className="grid grid-cols-2 gap-4 mb-6">"##,
  r##"        <div className="text-center">"##,
  r##"          <div className="text-sm text-slate-400 uppercase tracking-wider mb-1">Current</div>"##,
  r##"          <div className="text-4xl font-black text-white">"##,
  r##"            {data.value.toFixed(1)}"##,
  r##"            <span className="text-lg text-slate-400 ml-2">$&unit$&</span>"##,
  r##"          </div>"##,
  r##"        </div>"##,
  r##"        "##,
  r##"        <div className="text-center">"##,
  r##"          <div className="text-sm text-slate-400 uppercase tracking-wider mb-1 flex items-center justify-center gap-1">"##,
  r##"            <Target className="w-3 h-3" />"##,
  r##"            Target"##,
  r##"          </div>"##,
  r##"          <div className="text-4xl font-black text-slate-300">"##,
  r##"            {data.setpoint.toFixed(1)}"##,
  r##"            <span className="text-lg text-slate-400 ml-2">$&unit$&</span>"##,
  r##"          </div>"##,
  r##"        </div>"##,
  r##"      </div>"##,
  r##""##,
  r##"      <div className="mb-6">"##,
  r##"        <div className="text-center mb-4">"##,
  r##"          <div className="text-sm text-slate-400 uppercase tracking-wider mb-2 flex items-center justify-center gap-1">"##,
  r##"            {data.deviation > 0 ? <TrendingUp className="w-4 h-4" /> : <TrendingDown className="w-4 h-4" />}"##,
  r##"            Deviation"##,
  r##"          </div>"##,
  r##"          <div className={`text-6xl font-black ${getDeviationColor()} flex items-center justify-center gap-2`}>"##,
  r##"            {data.deviation > 0 ? '+' : ''}{data.deviation.toFixed(1)}"##,
  r##"            <span className="text-2xl text-slate-400">$&unit$&</span>"##,
  r##"          </div>"##,
  r##"        </div>"##,
  r##""##,
  r##"        <div className="relative h-8 bg-zinc-800/50 rounded-full overflow-hidden">"##,
  r##"          <div className={`absolute inset-0 bg-gradient-to-r ${getDeviationBgColor()} opacity-30`}></div>"##,
  r##"          "##,
  r##"          <div className="absolute left-1/2 top-0 bottom-0 w-0.5 bg-slate-400 transform -translate-x-0.5"></div>"##,
  r##"          "##,
  r##"          <div "##,
  r##"            className={`absolute top-1 bottom-1 w-2 rounded-full transition-all duration-500 ease-out ${"##,
  r##"              data.deviation > 0 ? 'bg-gradient-to-r from-amber-400 to-red-400' : 'bg-gradient-to-r from-blue-400 to-cyan-400'"##,
  r##"            }`}"##,
  r##"            style={{ "##,
  r##"              left: `${sliderPosition}%`,"##,
  r##"              transform: 'translateX(-50%)',"##,
  r##"              boxShadow: `0 0 10px ${data.deviation > 0 ? '#f59e0b' : '#06b6d4'}40`"##,
  r##"            }}"##,
  r##"          ></div>"##,
  r##"          "##,
  r##"          <div className="absolute top-0 bottom-0 left-1/4 w-px bg-slate-600"></div>"##,
  r##"          <div className="absolute top-0 bottom-0 right-1/4 w-px bg-slate-600"></div>"##,
  r##"        </div>"##,
  r##"        "##,
  r##"        <div className="flex justify-between text-xs text-slate-500 mt-1 px-2">"##,
  r##"          <span>-{$&maxDeviation$& || 10}</span>"##,
  r##"          <span>0</span>"##,
  r##"          <span>+{$&maxDeviation$& || 10}</span>"##,
  r##"        </div>"##,
  r##"      </div>"##,
  r##""##,
  r##"      <div className="flex items-center justify-between">"##,
  r##"        <div className="flex items-center space-x-3">"##,
  r##"          <div className="w-2 h-2 bg-slate-400 rounded-full animate-pulse"></div>"##,
  r##"          <span className="text-slate-400 text-sm font-medium uppercase tracking-wider">"##,
  r##"            {timeAgo}"##,
  r##"          </span>"##,
  r##"        </div>"##,
  r##"        "##,
  r##"        <div className={`flex items-center px-4 py-2 rounded-xl bg-gradient-to-r ${statusStyle.bg} text-white text-xs font-bold uppercase tracking-widest shadow-lg ${statusStyle.glow} ${statusStyle.pulse}`}>"##,
  r##"          <Activity className="w-4 h-4 mr-2" />"##,
  r##"          {getStatusText()}"##,
  r##"        </div>"##,
  r##"      </div>"##,
  r##""##,
  r##"    </div>"##,
  r##"  )"##,
  r##"}"##]

end DashboardKit.Template.Packaged
