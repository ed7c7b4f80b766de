/-!
# Packaged template: the data route of the toggle kind

The text of the template, line by line.
-/

set_option autoImplicit false

namespace DashboardKit.Template.Packaged

/-- The lines of the template for the data route of the toggle kind. -/
def toggleApi : List String := [
  r##"import { NextResponse } from 'next/server'"##,
  r##"import mqtt from 'mqtt'"##,
  r##"import { MongoClient } from 'mongodb'"##,
  r##""##,
  r##"const MQTT_TOPIC = '$&mqttTopic$&'"##,
  r##"const COLLECTION_NAME = '$&componentName$&dataToggle'"##,
  r##"const LIVE_WINDOW_MS = 30000"##,
  r##"const STALE_AFTER_MS = 300000"##,
  r##""##,
  r##"const links = {"##,
  r##"  mqtt: { state: 'disconnected', client: null },"##,
  r##"  db: { state: 'disconnected', client: null, collection: null }"##,
  r##"}"##,
  r##""##,
  r##"let latestData = {"##,
  r##"  value: 0,"##,
  r##"  isOn: false,"##,
  r##"  timestamp: new Date().toISOString(),"##,
  r##"  status: 'stale'"##,
  r##"}"##,
  r##""##,
  r##"function parseToggle(payload) {"##,
  r##"  const text = payload.trim().toLowerCase()"##,
  r##"  if (['1', 'true', 'on'].includes(text)) return 1"##,
  r##"  if (['0', 'false', 'off'].includes(text)) return 0"##,
  r##"  return null"##,
  r##"}"##,
  r##""##,
  r##"function setLinkState(name, state) {"##,
  r##"  if (links[name].state !== state) {"##,
  r##"    console.log(`$&componentName$& ${name} link: ${links[name].state} -> ${state}`)"##,
  r##"    links[name].state = state"##,
  r##"  }"##,
  r##"}"##,
  r##""##,
  r##"function isConnected(name) {"##,
  r##"  return links[name].state === 'connected'"##,
  r##"}"##,
  r##""##,
  r##"async function storeReading(value) {"##,
  r##"  if (!isConnected('db')) return"##,
  r##"  try {"##,
  r##"    await links.db.collection.insertOne({"##,
  r##"      value,"##,
  r##"      timestamp: new Date(),"##,
  r##"      createdAt: new Date()"##,
  r##"    })"##,
  r##"  } catch (dbErr) {"##,
  r##"    console.error('$&componentName$& Database insert error:', dbErr)"##,
  r##"  }"##,
  r##"}"##,
  r##""##,
  r##"function initializeMqtt() {"##,
  r##"  if (links.mqtt.state !== 'disconnected') return"##,
  r##"  setLinkState('mqtt', 'connecting')"##,
  r##""##,
  r##"  try {"##,
  r##"    const options = {"##,
  r##"      host: process.env.MQTT_HOST,"##,
  r##"      username: process.env.MQTT_USERNAME,"##,
  r##"      password: process.env.MQTT_PASSWORD,"##,
  r##"      reconnectPeriod: 5000,"##,
  r##"      connectTimeout: 30000"##,
  r##"    }"##,
  r##""##,
  r##"    const client = mqtt.connect(`mqtts://${process.env.MQTT_HOST}`, options)"##,
  r##"    links.mqtt.client = client"##,
  r##""##,
  r##"    client.on('connect', () => {"##,
  r##"      setLinkState('mqtt', 'connected')"##,
  r##"      client.subscribe(MQTT_TOPIC, (err) => {"##,
  r##"        if (err) {"##,
  r##"          console.error('$&componentName$& MQTT Subscribe error:', err)"##,
  r##"        } else {"##,
  r##"          console.log(`$&componentName$& Subscribed to ${MQTT_TOPIC}`)"##,
  r##"        }"##,
  r##"      })"##,
  r##"    })"##,
  r##""##,
  r##"    client.on('message', async (topic, message) => {"##,
  r##"      if (topic !== MQTT_TOPIC) return"##,
  r##"      const value = parseToggle(message.toString())"##,
  r##"      if (value === null) {"##,
  r##"        console.error('$&componentName$& Message parsing error:', message.toString())"##,
  r##"        return"##,
  r##"      }"##,
  r##"      latestData = { value, isOn: value === 1, timestamp: new Date().toISOString(), status: 'live' }"##,
  r##"      await storeReading(value)"##,
  r##"    })"##,
  r##""##,
  r##"    client.on('reconnect', () => setLinkState('mqtt', 'connecting'))"##,
  r##"    client.on('error', (err) => {"##,
  r##"      console.error('$&componentName$& MQTT error:', err)"##,
  r##"      setLinkState('mqtt', 'disconnected')"##,
  r##"    })"##,
  r##"    client.on('close', () => setLinkState('mqtt', 'disconnected'))"##,
  r##"    client.on('offline', () => setLinkState('mqtt', 'disconnected'))"##,
  r##"  } catch (err) {"##,
  r##"    console.error('$&componentName$& MQTT initialization error:', err)"##,
  r##"    setLinkState('mqtt', 'disconnected')"##,
  r##"  }"##,
  r##"}"##,
  r##""##,
  r##"async function initializeDatabase() {"##,
  r##"  if (links.db.state !== 'disconnected') return"##,
  r##"  if (!process.env.MONGODB_URI) {"##,
  r##"    console.log('$&componentName$&: No MongoDB URI provided, running without database')"##,
  r##"    return"##,
  r##"  }"##,
  r##"  setLinkState('db', 'connecting')"##,
  r##""##,
  r##"  try {"##,
  r##"    const client = new MongoClient(process.env.MONGODB_URI)"##,
  r##"    await client.connect()"##,
  r##"    links.db.client = client"##,
  r##"    links.db.collection = client.db().collection(COLLECTION_NAME)"##,
  r##"    await links.db.collection.createIndex({ timestamp: -1 })"##,
  r##"    setLinkState('db', 'connected')"##,
  r##""##,
  r##"    const lastRecord = await links.db.collection.findOne({}, { sort: { timestamp: -1 } })"##,
  r##"    if (lastRecord) {"##,
  r##"      latestData = {"##,
  r##"        value: lastRecord.value,"##,
  r##"        isOn: lastRecord.value === 1,"##,
  r##"        timestamp: lastRecord.timestamp.toISOString(),"##,
  r##"        status: 'cached'"##,
  r##"      }"##,
  r##"    }"##,
  r##"  } catch (err) {"##,
  r##"    console.error('$&componentName$& Database connection error:', err)"##,
  r##"    setLinkState('db', 'disconnected')"##,
  r##"  }"##,
  r##"}"##,
  r##""##,
  r##"function getDataStatus(timestamp) {"##,
  r##"  const age = Date.now() - new Date(timestamp).getTime()"##,
  r##"  if (age > STALE_AFTER_MS) return 'stale'"##,
  r##"  if (isConnected('mqtt') && age < LIVE_WINDOW_MS) return 'live'"##,
  r##"  return 'cached'"##,
  r##"}"##,
  r##""##,
  r##"export async function GET() {"##,
  r##"  try {"##,
  r##"    initializeMqtt()"##,
  r##"    await initializeDatabase()"##,
  r##""##,
  r##"    const responseData = { ...latestData }"##,
  r##"    responseData.status = getDataStatus(responseData.timestamp)"##,
  r##""##,
  r##"    return NextResponse.json({"##,
  r##"      ...responseData,"##,
  r##"      label: '$&label$&',"##,
  r##"      unit: '$&unit$&',"##,
  r##"      mqttConnected: isConnected('mqtt'),"##,
  r##"      dbConnected: isConnected('db')"##,
  r##"    })"##,
  r##"  } catch (error) {"##,
  r##"    console.error('$&componentName$& API error:', error)"##,
  r##"    return NextResponse.json({"##,
  r##"      value: 0,"##,
  r##"      isOn: false,"##,
  r##"      timestamp: new Date().toISOString(),"##,
  r##"      status: 'stale',"##,
  r##"      mqttConnected: false,"##,
  r##"      dbConnected: false"##,
  r##"    }, { status: 500 })"##,
  r##"  }"##,
  r##"}"##,
  r##""##,
  r##"initializeMqtt()"##,
  r##"initializeDatabase()"##,
  r##""##]

end DashboardKit.Template.Packaged
