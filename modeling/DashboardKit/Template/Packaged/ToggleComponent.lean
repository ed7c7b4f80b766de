/-!
# Packaged template: the page component of the toggle kind

The text of the template, line by line.
-/

set_option autoImplicit false

namespace DashboardKit.Template.Packaged

/-- The lines of the template for the page component of the toggle kind. -/
def toggleComponent : List String := [
  r##"'use client'"##,
  r##""##,
  r##"import { useState, useEffect } from 'react'"##,
  r##"import { $&icon$&, Wifi, WifiOff, Database, DatabaseZap, Activity, Power, PowerOff } from 'lucide-react'"##,
  r##""##,
  r##"export default function $&componentName$&() {"##,
  r##"  const [data, setData] = useState({"##,
  r##"    value: 0,"##,
  r##"    timestamp: new Date().toISOString(),"##,
  r##"    status: 'stale',"##,
  r##"    mqttConnected: false,"##,
  r##"    dbConnected: false,"##,
  r##"    isOn: false"##,
  r##"  })"##,
  r##"  const [loading, setLoading] = useState(true)"##,
  r##"  const [timeAgo, setTimeAgo] = useState('')"##,
  r##""##,
  r##"  useEffect(() => {"##,
  r##"    const fetchData = async () => {"##,
  r##"      try {"##,
  r##"        const response = await fetch('/api/microlab/$&componentApi$&')"##,
  r##"        const result = await response.json()"##,
  r##"        setData(result)"##,
  r##"      } catch (error) {"##,
  r##"        console.error('$&componentName$& Failed to fetch data:', error)"##,
  r##"      } finally {"##,
  r##"        setLoading(false)"##,
  r##"      }"##,
  r##"    }"##,
  r##""##,
  r##"    fetchData()"##,
  r##"    const interval = setInterval(fetchData, $&pollingInterval$&)"##,
  r##"    return () => clearInterval(interval)"##,
  r##"  }, [])"##,
  r##""##,
  r##"  useEffect(() => {"##,
  r##"    const updateTimeAgo = () => {"##,
  r##"      const now = new Date()"##,
  r##"      const date = new Date(data.timestamp)"##,
  r##"      const diffMs = now - date"##,
  r##"      const diffSeconds = Math.floor(diffMs / 1000)"##,
  r##"      const diffMins = Math.floor(diffMs / 60000)"##,
  r##"      const diffHours = Math.floor(diffMs / 3600000)"##,
  r##""##,
  r##"      if (diffSeconds < 60) {"##,
  r##"        setTimeAgo(diffSeconds < 1 ? 'now' : `${diffSeconds}s`)"##,
  r##"      } else if (diffMins < 60) {"##,
  r##"        setTimeAgo(`${diffMins}m`)"##,
  r##"      } else if (diffHours === 1) {"##,
  r##"        setTimeAgo('1h')"##,
  r##"      } else {"##,
  r##"        setTimeAgo(date.toLocaleString([], { "##,
  r##"          month: 'short', "##,
  r##"          day: 'numeric', "##,
  r##"          hour: '2-digit', "##,
  r##"          minute: '2-digit' "##,
  r##"        }))"##,
  r##"      }"##,
  r##"    }"##,
  r##""##,
  r##"    updateTimeAgo()"##,
  r##"    const interval = setInterval(updateTimeAgo, 1000)"##,
  r##"    return () => clearInterval(interval)"##,
  r##"  }, [data.timestamp])"##,
  r##""##,
  r##"  const getStatusColor = () => {"##,
  r##"    switch (data.status) {"##,
  r##"      case 'live': return { "##,
  r##"        bg: 'from-emerald-500 via-teal-500 to-cyan-500', "##,
  r##"        glow: 'shadow-emerald-500/30',"##,
  r##"        pulse: 'animate-pulse'"##,
  r##"      }"##,
  r##"      case 'cached': return { "##,
  r##"        bg: 'from-amber-500 via-orange-500 to-yellow-500', "##,
  r##"        glow: 'shadow-amber-500/30',"##,
  r##"        pulse: ''"##,
  r##"      }"##,
  r##"      case 'stale': return { "##,
  r##"        bg: 'from-red-500 via-rose-500 to-pink-500', "##,
  r##"        glow: 'shadow-red-500/30',"##,
  r##"        pulse: ''"##,
  r##"      }"##,
  r##"      default: return { "##,
  r##"        bg: 'from-slate-600 via-slate-500 to-slate-600', "##,
  r##"        glow: 'shadow-slate-500/20',"##,
  r##"        pulse: ''"##,
  r##"      }"##,
  r##"    }"##,
  r##"  }"##,
  r##""##,
  r##"  const getToggleStyle = () => {"##,
  r##"    if (data.isOn) {"##,
  r##"      return {"##,
  r##"        bg: 'from-emerald-400 via-green-500 to-emerald-600',"##,
  r##"        glow: 'shadow-emerald-500/50',"##,
  r##"        pulse: data.status === 'live' ? 'animate-pulse' : '',"##,
  r##"        text: 'text-white',"##,
  r##"        shadow: 'drop-shadow-2xl'"##,
  r##"      }"##,
  r##"    } else {"##,
  r##"      return {"##,
  r##"        bg: 'from-slate-600 via-slate-700 to-slate-800',"##,
  r##"        glow: 'shadow-slate-500/30',"##,
  r##"        pulse: '',"##,
  r##"        text: 'text-slate-300',"##,
  r##"        shadow: 'drop-shadow-lg'"##,
  r##"      }"##,
  r##"    }"##,
  r##"  }"##,
  r##""##,
  r##"  const getStatusText = () => {"##,
  r##"    switch (data.status) {"##,
  r##"      case 'live': return 'LIVE'"##,
  r##"      case 'cached': return 'CACHE'"##,
  r##"      case 'stale': return 'STALE'"##,
  r##"      default: return 'UNKNOWN'"##,
  r##"    }"##,
  r##"  }"##,
  r##""##,
  r##"  if (loading) {"##,
  r##"    return ("##,
  r##"      <div className="bg-zinc-950/80 backdrop-blur-2xl rounded-3xl border border-zinc-800/50 p-6 shadow-2xl w-[400px] flex items-center justify-center">"##,
  r##"        <div className="relative">"##,
  r##"          <div className="animate-spin rounded-full h-12 w-12 border border-cyan-500/20">"##,
  r##"            <div className="absolute inset-1 rounded-full border-t-2 border-cyan-400 animate-spin" style={{animationDuration: '0.8s'}}></div>"##,
  r##"          </div>"##,
  r##"          <div className="absolute inset-0 rounded-full bg-cyan-500/10 blur-xl animate-pulse"></div>"##,
  r##"        </div>"##,
  r##"      </div>"##,
  r##"    )"##,
  r##"  }"##,
  r##""##,
  r##"  const statusStyle = getStatusColor()"##,
  r##"  const toggleStyle = getToggleStyle()"##,
  r##""##,
  r##"  return ("##,
  r##"    <div className="bg-zinc-950/80 backdrop-blur-2xl rounded-3xl border border-zinc-800/50 p-3 shadow-2xl w-[350px] flex flex-col justify-between min-h-[200px]">"##,
  r##"      "##,
  r##"      <div className="flex items-center justify-between mb-3 gap-6">"##,
  r##"        <div className="flex items-center space-x-2">"##,
  r##"          <div className="relative group">"##,
  r##"            <div className={`relative p-2 rounded-full bg-gradient-to-r ${statusStyle.bg}`}>"##,
  r##"              <$&icon$& className="w-7 h-7 text-white" />"##,
  r##"            </div>"##,
  r##"          </div>"##,
  r##"          <div>"##,
  r##"            <h1 className="text-3xl font-black text-white tracking-tight">$&label$&</h1>"##,
  r##"          </div>"##,
  r##"        </div>"##,
  r##"        "##,
  r##"        <div className="flex items-center space-x-2">"##,
  r##"          {data.mqttConnected ? ("##,
  r##"            <div className="relative">"##,
  r##"              <Wifi className="w-6 h-6 text-emerald-400 drop-shadow-lg" />"##,
  r##"              <div className="absolute -inset-1 bg-emerald-400/20 rounded-full blur animate-pulse"></div>"##,
  r##"            </div>"##,
  r##"          ) : ("##,
  r##"            <WifiOff className="w-6 h-6 text-slate-500/70" />"##,
  r##"          )}"##,
  r##"          "##,
  r##"          {data.dbConnected ? ("##,
  r##"            <div className="relative">"##,
  r##"              <DatabaseZap className="w-6 h-6 text-emerald-400 drop-shadow-lg" />"##,
  r##"              <div className="absolute -inset-1 bg-cyan-400/20 rounded-full blur animate-pulse"></div>"##,
  r##"            </div>"##,
  r##"          ) : ("##,
  r##"            <Database className="w-6 h-6 text-slate-500/70" />"##,
  r##"          )}"##,
  r##"        </div>"##,
  r##"      </div>"##,
  r##""##,
  r##"      <div className="text-center mb-3 relative">"##,
  r##"        <div className={`relative inline-flex items-center justify-center w-48 h-24 rounded-2xl bg-gradient-to-r ${toggleStyle.bg} shadow-2xl ${toggleStyle.glow} ${toggleStyle.pulse} ${toggleStyle.shadow} transition-all duration-500 ease-in-out`}>"##,
  r##"          <div className="absolute inset-0 rounded-2xl bg-gradient-to-r from-white/10 to-transparent"></div>"##,
  r##"          <div className="flex items-center space-x-4 relative z-10">"##,
  r##"            {data.isOn ? ("##,
  r##"              <Power className={`w-12 h-12 ${toggleStyle.text} ${toggleStyle.shadow}`} />"##,
  r##"            ) : ("##,
  r##"              <PowerOff className={`w-12 h-12 ${toggleStyle.text} ${toggleStyle.shadow}`} />"##,
  r##"            )}"##,
  r##"            <div className={`text-4xl font-black ${toggleStyle.text} ${toggleStyle.shadow} tracking-tight`}>"##,
  r##"              {data.isOn ? 'ON' : 'OFF'}"##,
  r##"            </div>"##,
  r##"          </div>"##,
  r##"          "##,
  r##"          {data.isOn && data.status === 'live' && ("##,
  r##"            <>"##,
  r##"              <div className="absolute -inset-2 rounded-2xl bg-emerald-400/20 blur-xl"></div>"##,
  r##"              <div className="absolute inset-0 rounded-2xl">"##,
  r##"                <div className="absolute inset-0 rounded-2xl bg-gradient-to-r from-emerald-400/30 via-transparent to-emerald-400/30"></div>"##,
  r##"              </div>"##,
  r##"            </>"##,
  r##"          )}"##,
  r##"        </div>"##,
  r##"        "##,
  r##"        <div className="mt-4 text-sm font-medium text-slate-400 tracking-wider uppercase">"##,
  r##"          State: {data.value === 1 ? '1 (Active)' : '0 (Inactive)'}"##,
  r##"        </div>"##,
  r##"      </div>"##,
  r##""##,
  r##"      <div className="flex items-center justify-between p-2">"##,
  r##"        <div className="flex items-center space-x-3">"##,
  r##"          <div className="w-2 h-2 bg-slate-400 rounded-full animate-pulse"></div>"##,
  r##"          <span className="text-slate-400 text-sm font-medium uppercase tracking-wider">"##,
  r##"            {timeAgo}"##,
  r##"          </span>"##,
  r##"        </div>"##,
  r##"        "##,
  r##"        <div className={`flex items-center px-4 py-2 rounded-xl bg-gradient-to-r ${statusStyle.bg} text-white text-xs font-bold uppercase tracking-widest shadow-lg ${statusStyle.glow} ${statusStyle.pulse}`}>"##,
  r##"          <Activity className="w-4 h-4 mr-2" />"##,
  r##"          {getStatusText()}"##,
  r##"        </div>"##,
  r##"      </div>"##,
  r##""##,
  r##"    </div>"##,
  r##"  )"##,
  r##"}"##]

end DashboardKit.Template.Packaged
