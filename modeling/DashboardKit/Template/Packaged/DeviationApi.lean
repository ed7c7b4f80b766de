/-!
# Packaged template: the data route of the deviation kind

The text of the template, line by line.
-/

set_option autoImplicit false

namespace DashboardKit.Template.Packaged

/-- The lines of the template for the data route of the deviation kind. -/
def deviationApi : List String := [
  r##"import { NextResponse } from 'next/server'"##,
  r##"import mqtt from 'mqtt'"##,
  r##"import { MongoClient } from 'mongodb'"##,
  r##""##,
  r##"const Schema = {"##,
  r##"  value: Number,"##,
  r##"  timestamp: Date,"##,
  r##"  setpoint: Number,"##,
  r##"  deviation: Number"##,
  r##"}"##,
  r##""##,
  r##"let mqttClient = null"##,
  r##"let dbClient = null"##,
  r##"let database = null"##,
  r##"let collection = null"##,
  r##"let isConnectedMqtt = false"##,
  r##"let isConnectedDb = false"##,
  r##""##,
  r##"const SETPOINT = $&setpoint$&;"##,
  r##""##,
  r##"let latestData = {"##,
  r##"  value: 0,"##,
  r##"  setpoint: SETPOINT,"##,
  r##"  deviation: 0,"##,
  r##"  timestamp: new Date().toISOString(),"##,
  r##"  status: 'stale'"##,
  r##"}"##,
  r##""##,
  r##"const MQTT_TOPIC = '$&mqttTopic$&'"##,
  r##"const COLLECTION_NAME = '$&componentName$&dataDeviation'"##,
  r##""##,
  r##"function calculateDeviation(value, setpoint) {"##,
  r##"  return value - setpoint"##,
  r##"}"##,
  r##""##,
  r##"async function initializeMqtt() {"##,
  r##"  if (mqttClient) return"##,
  r##""##,
  r##"  try {"##,
  r##"    const options = {"##,
  r##"      host: process.env.MQTT_HOST,"##,
  r##"      username: process.env.MQTT_USERNAME,"##,
  r##"      password: process.env.MQTT_PASSWORD,"##,
  r##"      reconnectPeriod: 5000,"##,
  r##"      connectTimeout: 30000"##,
  r##"    }"##,
  r##""##,
  r##"    mqttClient = mqtt.connect(`mqtts://${process.env.MQTT_HOST}`, options)"##,
  r##""##,
  r##"    mqttClient.on('connect', () => {"##,
  r##"      console.log('$&componentName$& MQTT Connected')"##,
  r##"      isConnectedMqtt = true"##,
  r##"      mqttClient.subscribe(MQTT_TOPIC, (err) => {"##,
  r##"        if (err) {"##,
  r##"          console.error('$&componentName$& MQTT Subscribe error:', err)"##,
  r##"        } else {"##,
  r##"          console.log(`$&componentName$& Subscribed to ${MQTT_TOPIC}`)"##,
  r##"        }"##,
  r##"      })"##,
  r##"    })"##,
  r##""##,
  r##"    mqttClient.on('message', async (topic, message) => {"##,
  r##"      if (topic === MQTT_TOPIC) {"##,
  r##"        try {"##,
  r##"          const value = parseFloat(message.toString())"##,
  r##"          const timestamp = new Date().toISOString()"##,
  r##"          const deviation = calculateDeviation(value, SETPOINT)"##,
  r##"          "##,
  r##"          latestData = {"##,
  r##"            value,"##,
  r##"            setpoint: SETPOINT,"##,
  r##"            deviation,"##,
  r##"            timestamp,"##,
  r##"            status: 'live'"##,
  r##"          }"##,
  r##""##,
  r##"          if (isConnectedDb && collection) {"##,
  r##"            try {"##,
  r##"              await collection.insertOne({"##,
  r##"                value,"##,
  r##"                setpoint: SETPOINT,"##,
  r##"                deviation,"##,
  r##"                timestamp: new Date(),"##,
  r##"                createdAt: new Date()"##,
  r##"              })"##,
  r##"            } catch (dbErr) {"##,
  r##"              console.error('$&componentName$& Database insert error:', dbErr)"##,
  r##"            }"##,
  r##"          }"##,
  r##"        } catch (err) {"##,
  r##"          console.error('$&componentName$& Message parsing error:', err)"##,
  r##"        }"##,
  r##"      }"##,
  r##"    })"##,
  r##""##,
  r##"    mqttClient.on('error', (err) => {"##,
  r##"      console.error('$&componentName$& MQTT error:', err)"##,
  r##"      isConnectedMqtt = false"##,
  r##"    })"##,
  r##""##,
  r##"    mqttClient.on('close', () => {"##,
  r##"      console.log('$&componentName$& MQTT disconnected')"##,
  r##"      isConnectedMqtt = false"##,
  r##"    })"##,
  r##""##,
  r##"    mqttClient.on('offline', () => {"##,
  r##"      console.log('$&componentName$& MQTT offline')"##,
  r##"      isConnectedMqtt = false"##,
  r##"    })"##,
  r##""##,
  r##"  } catch (err) {"##,
  r##"    console.error('$&componentName$& MQTT initialization error:', err)"##,
  r##"    isConnectedMqtt = false"##,
  r##"  }"##,
  r##"}"##,
  r##""##,
  r##"async function initializeDatabase() {"##,
  r##"  if (dbClient && isConnectedDb) return"##,
  r##""##,
  r##"  try {"##,
  r##"    if (!process.env.MONGODB_URI) {"##,
  r##"      console.log('$&componentName$&: No MongoDB URI provided, running without database')"##,
  r##"      return"##,
  r##"    }"##,
  r##""##,
  r##"    dbClient = new MongoClient(process.env.MONGODB_URI)"##,
  r##"    await dbClient.connect()"##,
  r##"    "##,
  r##"    database = dbClient.db()"##,
  r##"    collection = database.collection(COLLECTION_NAME)"##,
  r##"    "##,
  r##"    await collection.createIndex({ timestamp: -1 })"##,
  r##"    "##,
  r##"    isConnectedDb = true"##,
  r##"    console.log('$&componentName$& MongoDB Connected')"##,
  r##""##,
  r##"    const lastRecord = await collection.findOne({}, { sort: { timestamp: -1 } })"##,
  r##"    if (lastRecord) {"##,
  r##"      const deviation = calculateDeviation(lastRecord.value, SETPOINT)"##,
  r##"      latestData = {"##,
  r##"        value: lastRecord.value,"##,
  r##"        setpoint: SETPOINT,"##,
  r##"        deviation,"##,
  r##"        timestamp: lastRecord.timestamp.toISOString(),"##,
  r##"        status: 'cached'"##,
  r##"      }"##,
  r##"    }"##,
  r##""##,
  r##"  } catch (err) {"##,
  r##"    console.error('$&componentName$& Database connection error:', err)"##,
  r##"    isConnectedDb = false"##,
  r##"  }"##,
  r##"}"##,
  r##""##,
  r##"async function getDataStatus() {"##,
  r##"  const now = new Date()"##,
  r##"  const lastUpdate = new Date(latestData.timestamp)"##,
  r##"  const timeDiff = now - lastUpdate"##,
  r##""##,
  r##"  if (timeDiff > 300000) {"##,
  r##"    return 'stale'"##,
  r##"  } else if (isConnectedMqtt && timeDiff < 30000) {"##,
  r##"    return 'live'"##,
  r##"  } else {"##,
  r##"    return 'cached'"##,
  r##"  }"##,
  r##"}"##,
  r##""##,
  r##"export async function GET() {"##,
  r##"  try {"##,
  r##"    if (!mqttClient) {"##,
  r##"      await initializeMqtt()"##,
  r##"    }"##,
  r##"    "##,
  r##"    if (!isConnectedDb && process.env.MONGODB_URI) {"##,
  r##"      await initializeDatabase()"##,
  r##"    }"##,
  r##""##,
  r##"    let responseData = { ...latestData }"##,
  r##""##,
  r##"    if (isConnectedDb && collection) {"##,
  r##"      try {"##,
  r##"        const lastRecord = await collection.findOne({}, { sort: { timestamp: -1 } })"##,
  r##"        if (lastRecord) {"##,
  r##"          const dbTimestamp = lastRecord.timestamp.toISOString()"##,
  r##"          if (new Date(dbTimestamp) > new Date(latestData.timestamp)) {"##,
  r##"            const deviation = calculateDeviation(lastRecord.value, SETPOINT)"##,
  r##"            responseData = {"##,
  r##"              value: lastRecord.value,"##,
  r##"              setpoint: SETPOINT,"##,
  r##"              deviation,"##,
  r##"              timestamp: dbTimestamp,"##,
  r##"              status: 'cached'"##,
  r##"            }"##,
  r##"          }"##,
  r##"        }"##,
  r##"      } catch (dbErr) {"##,
  r##"        console.error('$&componentName$& Database query error:', dbErr)"##,
  r##"      }"##,
  r##"    }"##,
  r##""##,
  r##"    responseData.status = await getDataStatus()"##,
  r##""##,
  r##"    return NextResponse.json({"##,
  r##"      ...responseData,"##,
  r##"      mqttConnected: isConnectedMqtt,"##,
  r##"      dbConnected: isConnectedDb"##,
  r##"    })"##,
  r##""##,
  r##"  } catch (error) {"##,
  r##"    console.error('$&componentName$& API error:', error)"##,
  r##"    return NextResponse.json({"##,
  r##"      value: 0,"##,
  r##"      setpoint: SETPOINT,"##,
  r##"      deviation: 0,"##,
  r##"      timestamp: new Date().toISOString(),"##,
  r##"      status: 'stale',"##,
  r##"      mqttConnected: false,"##,
  r##"      dbConnected: false"##,
  r##"    }, { status: 500 })"##,
  r##"  }"##,
  r##"}"##,
  r##""##,
  r##"initializeMqtt()"##,
  r##"if (process.env.MONGODB_URI) {"##,
  r##"  initializeDatabase()"##,
  r##"}"##]

end DashboardKit.Template.Packaged
