/-!
# Packaged template: the page component of the stats kind

The text of the template, line by line.
-/

set_option autoImplicit false

namespace DashboardKit.Template.Packaged

/-- The lines of the template for the page component of the stats kind. -/
def statsComponent : List String := [
  r##"'use client'"##,
  r##""##,
  r##"import { useState, useEffect } from 'react'"##,
  r##"import { BarChart3, TrendingUp, TrendingDown, Minus, Database, AlertTriangle, Target, Zap, Activity } from 'lucide-react'"##,
  r##""##,
  r##"export default function $&componentName$&Statistics() {"##,
  r##"  const [data, setData] = useState({"##,
  r##"    period: '1d',"##,
  r##"    statistics: {},"##,
  r##"    dataPoints: 0,"##,
  r##"    timeRange: { start: '', end: '' },"##,
  r##"    metadata: {}"##,
  r##"  })"##,
  r##"  const [loading, setLoading] = useState(true)"##,
  r##"  const [selectedPeriod, setSelectedPeriod] = useState('1d')"##,
  r##""##,
  r##"  const fetchStatistics = async (period = '1d') => {"##,
  r##"    setLoading(true)"##,
  r##"    try {"##,
  r##"      const response = await fetch(`/api/microlab/$&componentApi$&/statistics?period=${period}`)"##,
  r##"      const result = await response.json()"##,
  r##"      setData(result)"##,
  r##"    } catch (error) {"##,
  r##"      console.error('$&componentName$& Failed to fetch statistics:', error)"##,
  r##"    } finally {"##,
  r##"      setLoading(false)"##,
  r##"    }"##,
  r##"  }"##,
  r##""##,
  r##"  useEffect(() => {"##,
  r##"    fetchStatistics(selectedPeriod)"##,
  r##"    const interval = setInterval(() => fetchStatistics(selectedPeriod), 30000)"##,
  r##"    return () => clearInterval(interval)"##,
  r##"  }, [selectedPeriod])"##,
  r##""##,
  r##"  const handlePeriodChange = (period) => {"##,
  r##"    setSelectedPeriod(period)"##,
  r##"  }"##,
  r##""##,
  r##"  const getTrendIcon = () => {"##,
  r##"    if (!data.statistics.trendDirection) return <Minus className="w-4 h-4" />"##,
  r##"    "##,
  r##"    switch (data.statistics.trendDirection) {"##,
  r##"      case 'increasing':"##,
  r##"        return <TrendingUp className="w-4 h-4 text-emerald-400" />"##,
  r##"      case 'decreasing':"##,
  r##"        return <TrendingDown className="w-4 h-4 text-red-400" />"##,
  r##"      default:"##,
  r##"        return <Minus className="w-4 h-4 text-slate-400" />"##,
  r##"    }"##,
  r##"  }"##,
  r##""##,
  r##"  const getTrendColor = () => {"##,
  r##"    switch (data.statistics.trendDirection) {"##,
  r##"      case 'increasing': return 'text-emerald-400'"##,
  r##"      case 'decreasing': return 'text-red-400'"##,
  r##"      default: return 'text-slate-400'"##,
  r##"    }"##,
  r##"  }"##,
  r##""##,
  r##"  const getDataQualityColor = () => {"##,
  r##"    switch (data.metadata?.dataQuality) {"##,
  r##"      case 'good': return 'text-emerald-400'"##,
  r##"      case 'fair': return 'text-amber-400'"##,
  r##"      case 'poor': return 'text-red-400'"##,
  r##"      default: return 'text-slate-400'"##,
  r##"    }"##,
  r##"  }"##,
  r##""##,
  r##"  const StatCard = ({ title, value, unit = '', icon: Icon, subtitle = '', trend = false }) => ("##,
  r##"    <div className="bg-zinc-900/60 backdrop-blur-sm rounded-2xl border border-zinc-800/40 p-4 hover:border-zinc-700/60 transition-all duration-300">"##,
  r##"      <div className="flex items-center justify-between mb-2">"##,
  r##"        <div className="flex items-center space-x-2">"##,
  r##"          <div className="p-1.5 rounded-lg bg-gradient-to-r from-cyan-500/20 to-blue-500/20">"##,
  r##"            <Icon className="w-4 h-4 text-cyan-400" />"##,
  r##"          </div>"##,
  r##"          <span className="text-slate-300 text-sm font-medium">{title}</span>"##,
  r##"        </div>"##,
  r##"        {trend && getTrendIcon()}"##,
  r##"      </div>"##,
  r##"      <div className="space-y-1">"##,
  r##"        <div className="text-2xl font-bold text-white">"##,
  r##"          {typeof value === 'number' ? value.toLocaleString() : value}"##,
  r##"          {unit && <span className="text-sm text-slate-400 ml-1 font-normal">{unit}</span>}"##,
  r##"        </div>"##,
  r##"        {subtitle && ("##,
  r##"          <div className="text-xs text-slate-400">{subtitle}</div>"##,
  r##"        )}"##,
  r##"      </div>"##,
  r##"    </div>"##,
  r##"  )"##,
  r##""##,
  r##"  if (loading) {"##,
  r##"    return ("##,
  r##"      <div className="bg-zinc-950/80 backdrop-blur-2xl rounded-3xl border border-zinc-800/50 p-6 shadow-2xl w-full max-w-6xl">"##,
  r##"        <div className="flex items-center justify-center h-64">"##,
  r##"          <div className="relative">"##,
  r##"            <div className="animate-spin rounded-full h-12 w-12 border border-cyan-500/20">"##,
  r##"              <div className="absolute inset-1 rounded-full border-t-2 border-cyan-400 animate-spin" style={{animationDuration: '0.8s'}}></div>"##,
  r##"            </div>"##,
  r##"            <div className="absolute inset-0 rounded-full bg-cyan-500/10 blur-xl animate-pulse"></div>"##,
  r##"          </div>"##,
  r##"        </div>"##,
  r##"      </div>"##,
  r##"    )"##,
  r##"  }"##,
  r##""##,
  r##"  const stats = data.statistics || {}"##,
  r##""##,
  r##"  return ("##,
  r##"    <div className="bg-zinc-950/80 backdrop-blur-2xl rounded-3xl border border-zinc-800/50 p-6 shadow-2xl w-full">"##,
  r##"      "##,
  r##"      <div className="flex items-center justify-between mb-6">"##,
  r##"        <div className="flex items-center space-x-3">"##,
  r##"          <div className="relative">"##,
  r##"            <div className="p-3 rounded-xl bg-gradient-to-r from-purple-500 via-violet-500 to-indigo-500">"##,
  r##"              <BarChart3 className="w-8 h-8 text-white" />"##,
  r##"            </div>"##,
  r##"          </div>"##,
  r##"          <div>"##,
  r##"            <h1 className="text-3xl font-black text-white tracking-tight">$&label$& Statistics</h1>"##,
  r##"            <p className="text-slate-400 text-sm">{data.dataPoints} data points analyzed</p>"##,
  r##"          </div>"##,
  r##"        </div>"##,
  r##""##,
  r##"        <div className="flex space-x-2 bg-zinc-900/60 rounded-xl p-1">"##,
  r##"          {['1d', '1m', '1y'].map((period) => ("##,
  r##"            <button"##,
  r##"              key={period}"##,
  r##"              onClick={() => handlePeriodChange(period)}"##,
  r##"              className={`px-4 py-2 rounded-lg text-sm font-medium transition-all duration-200 ${"##,
  r##"                selectedPeriod === period"##,
  r##"                  ? 'bg-gradient-to-r from-cyan-500 to-blue-500 text-white shadow-lg'"##,
  r##"                  : 'text-slate-400 hover:text-white hover:bg-zinc-800/60'"##,
  r##"              }`}"##,
  r##"            >"##,
  r##"              {period === '1d' ? '24H' : period === '1m' ? '30D' : '1Y'}"##,
  r##"            </button>"##,
  r##"          ))}"##,
  r##"        </div>"##,
  r##"      </div>"##,
  r##""##,
  r##"      <div className="grid grid-cols-2 md:grid-cols-4 lg:grid-cols-6 gap-4 mb-6">"##,
  r##"        <StatCard"##,
  r##"          title="Count""##,
  r##"          value={stats.count || 0}"##,
  r##"          icon={Database}"##,
  r##"          subtitle="Total readings""##,
  r##"        />"##,
  r##"        <StatCard"##,
  r##"          title="Average""##,
  r##"          value={stats.mean || 0}"##,
  r##"          unit="$&unit$&""##,
  r##"          icon={Target}"##,
  r##"          subtitle="Mean value""##,
  r##"        />"##,
  r##"        <StatCard"##,
  r##"          title="Minimum""##,
  r##"          value={stats.min || 0}"##,
  r##"          unit="$&unit$&""##,
  r##"          icon={TrendingDown}"##,
  r##"          subtitle="Lowest reading""##,
  r##"        />"##,
  r##"        <StatCard"##,
  r##"          title="Maximum""##,
  r##"          value={stats.max || 0}"##,
  r##"          unit="$&unit$&""##,
  r##"          icon={TrendingUp}"##,
  r##"          subtitle="Highest reading""##,
  r##"        />"##,
  r##"        <StatCard"##,
  r##"          title="Range""##,
  r##"          value={stats.range || 0}"##,
  r##"          unit="$&unit$&""##,
  r##"          icon={Activity}"##,
  r##"          subtitle="Max - Min""##,
  r##"        />"##,
  r##"        <StatCard"##,
  r##"          title="Std Dev""##,
  r##"          value={stats.standardDeviation || 0}"##,
  r##"          unit="$&unit$&""##,
  r##"          icon={Zap}"##,
  r##"          subtitle="Variability""##,
  r##"        />"##,
  r##"      </div>"##,
  r##""##,
  r##"      <div className="grid grid-cols-1 md:grid-cols-2 lg:grid-cols-3 gap-6 mb-6">"##,
  r##"        "##,
  r##"        <div className="bg-zinc-900/60 backdrop-blur-sm rounded-2xl border border-zinc-800/40 p-5">"##,
  r##"          <div className="flex items-center space-x-2 mb-4">"##,
  r##"            <div className="p-2 rounded-lg bg-gradient-to-r from-emerald-500/20 to-teal-500/20">"##,
  r##"              <BarChart3 className="w-5 h-5 text-emerald-400" />"##,
  r##"            </div>"##,
  r##"            <h3 className="text-lg font-bold text-white">Distribution</h3>"##,
  r##"          </div>"##,
  r##"          <div className="space-y-3">"##,
  r##"            <div className="flex justify-between items-center">"##,
  r##"              <span className="text-slate-300 text-sm">Median</span>"##,
  r##"              <span className="text-white font-semibold">{stats.median || 0} $&unit$&</span>"##,
  r##"            </div>"##,
  r##"            <div className="flex justify-between items-center">"##,
  r##"              <span className="text-slate-300 text-sm">Mode</span>"##,
  r##"              <span className="text-white font-semibold">{stats.mode || 0} $&unit$&</span>"##,
  r##"            </div>"##,
  r##"            <div className="flex justify-between items-center">"##,
  r##"              <span className="text-slate-300 text-sm">Variance</span>"##,
  r##"              <span className="text-white font-semibold">{stats.variance || 0}</span>"##,
  r##"            </div>"##,
  r##"            <div className="flex justify-between items-center">"##,
  r##"              <span className="text-slate-300 text-sm">Skewness</span>"##,
  r##"              <span className="text-white font-semibold">{stats.skewness || 0}</span>"##,
  r##"            </div>"##,
  r##"            <div className="flex justify-between items-center">"##,
  r##"              <span className="text-slate-300 text-sm">Kurtosis</span>"##,
  r##"              <span className="text-white font-semibold">{stats.kurtosis || 0}</span>"##,
  r##"            </div>"##,
  r##"          </div>"##,
  r##"        </div>"##,
  r##""##,
  r##"        <div className="bg-zinc-900/60 backdrop-blur-sm rounded-2xl border border-zinc-800/40 p-5">"##,
  r##"          <div className="flex items-center space-x-2 mb-4">"##,
  r##"            <div className="p-2 rounded-lg bg-gradient-to-r from-blue-500/20 to-purple-500/20">"##,
  r##"              <Target className="w-5 h-5 text-blue-400" />"##,
  r##"            </div>"##,
  r##"            <h3 className="text-lg font-bold text-white">Quartiles</h3>"##,
  r##"          </div>"##,
  r##"          <div className="space-y-3">"##,
  r##"            <div className="flex justify-between items-center">"##,
  r##"              <span className="text-slate-300 text-sm">Q1 (25%)</span>"##,
  r##"              <span className="text-white font-semibold">{stats.q1 || 0} $&unit$&</span>"##,
  r##"            </div>"##,
  r##"            <div className="flex justify-between items-center">"##,
  r##"              <span className="text-slate-300 text-sm">Q2 (Median)</span>"##,
  r##"              <span className="text-white font-semibold">{stats.median || 0} $&unit$&</span>"##,
  r##"            </div>"##,
  r##"            <div className="flex justify-between items-center">"##,
  r##"              <span className="text-slate-300 text-sm">Q3 (75%)</span>"##,
  r##"              <span className="text-white font-semibold">{stats.q3 || 0} $&unit$&</span>"##,
  r##"            </div>"##,
  r##"            <div className="flex justify-between items-center">"##,
  r##"              <span className="text-slate-300 text-sm">IQR</span>"##,
  r##"              <span className="text-white font-semibold">{stats.iqr || 0} $&unit$&</span>"##,
  r##"            </div>"##,
  r##"            <div className="flex justify-between items-center">"##,
  r##"              <span className="text-slate-300 text-sm">Outliers</span>"##,
  r##"              <span className={`font-semibold ${stats.outliers > 0 ? 'text-amber-400' : 'text-emerald-400'}`}>"##,
  r##"                {stats.outliers || 0}"##,
  r##"              </span>"##,
  r##"            </div>"##,
  r##"          </div>"##,
  r##"        </div>"##,
  r##""##,
  r##"        <div className="bg-zinc-900/60 backdrop-blur-sm rounded-2xl border border-zinc-800/40 p-5">"##,
  r##"          <div className="flex items-center space-x-2 mb-4">"##,
  r##"            <div className="p-2 rounded-lg bg-gradient-to-r from-amber-500/20 to-orange-500/20">"##,
  r##"              <Activity className="w-5 h-5 text-amber-400" />"##,
  r##"            </div>"##,
  r##"            <h3 className="text-lg font-bold text-white">Analysis</h3>"##,
  r##"          </div>"##,
  r##"          <div className="space-y-3">"##,
  r##"            <div className="flex justify-between items-center">"##,
  r##"              <span className="text-slate-300 text-sm">Trend</span>"##,
  r##"              <div className="flex items-center space-x-2">"##,
  r##"                <span className={`font-semibold capitalize ${getTrendColor()}`}>"##,
  r##"                  {stats.trendDirection || 'stable'}"##,
  r##"                </span>"##,
  r##"                {getTrendIcon()}"##,
  r##"              </div>"##,
  r##"            </div>"##,
  r##"            <div className="flex justify-between items-center">"##,
  r##"              <span className="text-slate-300 text-sm">Strength</span>"##,
  r##"              <span className="text-white font-semibold">{stats.trendStrength || 0}</span>"##,
  r##"            </div>"##,
  r##"            <div className="flex justify-between items-center">"##,
  r##"              <span className="text-slate-300 text-sm">Data Quality</span>"##,
  r##"              <span className={`font-semibold capitalize ${getDataQualityColor()}`}>"##,
  r##"                {data.metadata?.dataQuality || 'unknown'}"##,
  r##"              </span>"##,
  r##"            </div>"##,
  r##"            <div className="flex justify-between items-center">"##,
  r##"              <span className="text-slate-300 text-sm">Time Span</span>"##,
  r##"              <span className="text-white font-semibold">"##,
  r##"                {data.metadata?.timeSpanHours ? `${data.metadata.timeSpanHours}h` : 'N/A'}"##,
  r##"              </span>"##,
  r##"            </div>"##,
  r##"            <div className="flex justify-between items-center">"##,
  r##"              <span className="text-slate-300 text-sm">Avg Interval</span>"##,
  r##"              <span className="text-white font-semibold">"##,
  r##"                {data.metadata?.avgIntervalMs ? `${Math.round(data.metadata.avgIntervalMs / 1000)}s` : 'N/A'}"##,
  r##"              </span>"##,
  r##"            </div>"##,
  r##"          </div>"##,
  r##"        </div>"##,
  r##"      </div>"##,
  r##"    </div>"##,
  r##"  )"##,
  r##"}"##]

end DashboardKit.Template.Packaged
