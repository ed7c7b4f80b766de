/-!
# Packaged template: the data route of the stats kind

The text of the template, line by line.
-/

set_option autoImplicit false

namespace DashboardKit.Template.Packaged

/-- The lines of the template for the data route of the stats kind. -/
def statsApi : List String := [
  r##"import { NextResponse } from 'next/server'"##,
  r##"import { MongoClient } from 'mongodb'"##,
  r##""##,
  r##"let dbClient = null"##,
  r##"let database = null"##,
  r##"let collection = null"##,
  r##"let isConnectedDb = false"##,
  r##""##,
  r##"const COLLECTION_NAME = '$&componentName$&data'"##,
  r##""##,
  r##"async function initializeDatabase() {"##,
  r##"  if (dbClient && isConnectedDb) return"##,
  r##""##,
  r##"  try {"##,
  r##"    if (!process.env.MONGODB_URI) {"##,
  r##"      throw new Error('No MongoDB URI provided')"##,
  r##"    }"##,
  r##""##,
  r##"    dbClient = new MongoClient(process.env.MONGODB_URI)"##,
  r##"    await dbClient.connect()"##,
  r##"    "##,
  r##"    database = dbClient.db()"##,
  r##"    collection = database.collection(COLLECTION_NAME)"##,
  r##"    "##,
  r##"    isConnectedDb = true"##,
  r##"    console.log('$&componentName$& Statistics MongoDB Connected')"##,
  r##""##,
  r##"  } catch (err) {"##,
  r##"    console.error('$&componentName$& Statistics Database connection error:', err)"##,
  r##"    isConnectedDb = false"##,
  r##"    throw err"##,
  r##"  }"##,
  r##"}"##,
  r##""##,
  r##"function calculateStatistics(data) {"##,
  r##"  if (!data || data.length === 0) {"##,
  r##"    return {"##,
  r##"      count: 0,"##,
  r##"      min: 0,"##,
  r##"      max: 0,"##,
  r##"      mean: 0,"##,
  r##"      median: 0,"##,
  r##"      mode: 0,"##,
  r##"      range: 0,"##,
  r##"      variance: 0,"##,
  r##"      standardDeviation: 0,"##,
  r##"      skewness: 0,"##,
  r##"      kurtosis: 0,"##,
  r##"      q1: 0,"##,
  r##"      q3: 0,"##,
  r##"      iqr: 0,"##,
  r##"      outliers: 0,"##,
  r##"      trendDirection: 'stable',"##,
  r##"      trendStrength: 0"##,
  r##"    }"##,
  r##"  }"##,
  r##""##,
  r##"  const values = data.map(d => d.value).sort((a, b) => a - b)"##,
  r##"  const n = values.length"##,
  r##""##,
  r##"  const min = values[0]"##,
  r##"  const max = values[n - 1]"##,
  r##"  const sum = values.reduce((acc, val) => acc + val, 0)"##,
  r##"  const mean = sum / n"##,
  r##"  const range = max - min"##,
  r##""##,
  r##"  const median = n % 2 === 0 "##,
  r##"    ? (values[Math.floor(n / 2) - 1] + values[Math.floor(n / 2)]) / 2"##,
  r##"    : values[Math.floor(n / 2)]"##,
  r##""##,
  r##"  const frequency = {}"##,
  r##"  values.forEach(val => frequency[val] = (frequency[val] || 0) + 1)"##,
  r##"  const maxFreq = Math.max(...Object.values(frequency))"##,
  r##"  const modes = Object.keys(frequency).filter(key => frequency[key] === maxFreq)"##,
  r##"  const mode = parseFloat(modes[0]) || 0"##,
  r##""##,
  r##"  const q1Index = Math.floor(n * 0.25)"##,
  r##"  const q3Index = Math.floor(n * 0.75)"##,
  r##"  const q1 = values[q1Index]"##,
  r##"  const q3 = values[q3Index]"##,
  r##"  const iqr = q3 - q1"##,
  r##""##,
  r##"  const variance = values.reduce((acc, val) => acc + Math.pow(val - mean, 2), 0) / n"##,
  r##"  const standardDeviation = Math.sqrt(variance)"##,
  r##""##,
  r##"  const skewness = values.reduce((acc, val) => acc + Math.pow((val - mean) / standardDeviation, 3), 0) / n"##,
  r##""##,
  r##"  const kurtosis = values.reduce((acc, val) => acc + Math.pow((val - mean) / standardDeviation, 4), 0) / n - 3"##,
  r##""##,
  r##"  const lowerBound = q1 - 1.5 * iqr"##,
  r##"  const upperBound = q3 + 1.5 * iqr"##,
  r##"  const outliers = values.filter(val => val < lowerBound || val > upperBound).length"##,
  r##""##,
  r##"  let trendDirection = 'stable'"##,
  r##"  let trendStrength = 0"##,
  r##"  "##,
  r##"  if (data.length >= 2) {"##,
  r##"    const timeValues = data.map((d, i) => i) "##,
  r##"    const dataValues = data.map(d => d.value)"##,
  r##"    "##,
  r##"    const n = timeValues.length"##,
  r##"    const sumX = timeValues.reduce((a, b) => a + b, 0)"##,
  r##"    const sumY = dataValues.reduce((a, b) => a + b, 0)"##,
  r##"    const sumXY = timeValues.reduce((acc, x, i) => acc + x * dataValues[i], 0)"##,
  r##"    const sumXX = timeValues.reduce((acc, x) => acc + x * x, 0)"##,
  r##"    "##,
  r##"    const slope = (n * sumXY - sumX * sumY) / (n * sumXX - sumX * sumX)"##,
  r##"    "##,
  r##"    if (Math.abs(slope) > 0.01) {"##,
  r##"      trendDirection = slope > 0 ? 'increasing' : 'decreasing'"##,
  r##"      trendStrength = Math.abs(slope)"##,
  r##"    }"##,
  r##"  }"##,
  r##""##,
  r##"  return {"##,
  r##"    count: n,"##,
  r##"    min: parseFloat(min.toFixed(3)),"##,
  r##"    max: parseFloat(max.toFixed(3)),"##,
  r##"    mean: parseFloat(mean.toFixed(3)),"##,
  r##"    median: parseFloat(median.toFixed(3)),"##,
  r##"    mode: parseFloat(mode.toFixed(3)),"##,
  r##"    range: parseFloat(range.toFixed(3)),"##,
  r##"    variance: parseFloat(variance.toFixed(3)),"##,
  r##"    standardDeviation: parseFloat(standardDeviation.toFixed(3)),"##,
  r##"    skewness: parseFloat(skewness.toFixed(3)),"##,
  r##"    kurtosis: parseFloat(kurtosis.toFixed(3)),"##,
  r##"    q1: parseFloat(q1.toFixed(3)),"##,
  r##"    q3: parseFloat(q3.toFixed(3)),"##,
  r##"    iqr: parseFloat(iqr.toFixed(3)),"##,
  r##"    outliers,"##,
  r##"    trendDirection,"##,
  r##"    trendStrength: parseFloat(trendStrength.toFixed(3))"##,
  r##"  }"##,
  r##"}"##,
  r##""##,
  r##"export async function GET(request) {"##,
  r##"  try {"##,
  r##"    const { searchParams } = new URL(request.url)"##,
  r##"    const period = searchParams.get('period') || '1d'"##,
  r##""##,
  r##"    if (!isConnectedDb) {"##,
  r##"      await initializeDatabase()"##,
  r##"    }"##,
  r##""##,
  r##"    const now = new Date()"##,
  r##"    let startDate"##,
  r##"    "##,
  r##"    switch (period) {"##,
  r##"      case '1d':"##,
  r##"        startDate = new Date(now.getTime() - 24 * 60 * 60 * 1000)"##,
  r##"        break"##,
  r##"      case '1m':"##,
  r##"        startDate = new Date(now.getTime() - 30 * 24 * 60 * 60 * 1000)"##,
  r##"        break"##,
  r##"      case '1y':"##,
  r##"        startDate = new Date(now.getTime() - 365 * 24 * 60 * 60 * 1000)"##,
  r##"        break"##,
  r##"      default:"##,
  r##"        startDate = new Date(now.getTime() - 24 * 60 * 60 * 1000)"##,
  r##"    }"##,
  r##""##,
  r##"    const data = await collection.find({"##,
  r##"      timestamp: { $gte: startDate }"##,
  r##"    }).sort({ timestamp: 1 }).toArray()"##,
  r##""##,
  r##"    if (!data || data.length === 0) {"##,
  r##"      return NextResponse.json({"##,
  r##"        period,"##,
  r##"        statistics: calculateStatistics([]),"##,
  r##"        dataPoints: 0,"##,
  r##"        timeRange: {"##,
  r##"          start: startDate.toISOString(),"##,
  r##"          end: now.toISOString()"##,
  r##"        },"##,
  r##"        error: 'No data available for the selected period'"##,
  r##"      })"##,
  r##"    }"##,
  r##""##,
  r##"    const statistics = calculateStatistics(data)"##,
  r##""##,
  r##"    const oldestRecord = data[0]"##,
  r##"    const newestRecord = data[data.length - 1]"##,
  r##"    const timeSpan = new Date(newestRecord.timestamp) - new Date(oldestRecord.timestamp)"##,
  r##"    const avgInterval = timeSpan / (data.length - 1)"##,
  r##""##,
  r##"    return NextResponse.json({"##,
  r##"      period,"##,
  r##"      statistics,"##,
  r##"      dataPoints: data.length,"##,
  r##"      timeRange: {"##,
  r##"        start: oldestRecord.timestamp,"##,
  r##"        end: newestRecord.timestamp"##,
  r##"      },"##,
  r##"      metadata: {"##,
  r##"        avgIntervalMs: Math.round(avgInterval),"##,
  r##"        timeSpanHours: Math.round(timeSpan / (1000 * 60 * 60) * 100) / 100,"##,
  r##"        dataQuality: data.length > 10 ? 'good' : data.length > 2 ? 'fair' : 'poor'"##,
  r##"      }"##,
  r##"    })"##,
  r##""##,
  r##"  } catch (error) {"##,
  r##"    console.error('$&componentName$& Statistics API error:', error)"##,
  r##"    return NextResponse.json({"##,
  r##"      period: '1d',"##,
  r##"      statistics: calculateStatistics([]),"##,
  r##"      dataPoints: 0,"##,
  r##"      error: error.message,"##,
  r##"      timeRange: {"##,
  r##"        start: new Date(Date.now() - 24 * 60 * 60 * 1000).toISOString(),"##,
  r##"        end: new Date().toISOString()"##,
  r##"      }"##,
  r##"    }, { status: 500 })"##,
  r##"  }"##,
  r##"}"##,
  r##""##,
  r##"if (process.env.MONGODB_URI) {"##,
  r##"  initializeDatabase().catch(console.error)"##,
  r##"}"##]

end DashboardKit.Template.Packaged
