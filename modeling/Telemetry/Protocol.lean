set_option autoImplicit false

namespace Telemetry.Protocol

def trackerVersion : String := "rust-0.1.0"

def postPath : String := "com.snowplowanalytics.snowplow/tp2"

def getPath : String := "i"

def payloadDataSchema : String :=
  "iglu:com.snowplowanalytics.snowplow/payload_data/jsonschema/1-0-4"

def contextsSchema : String := "iglu:com.snowplowanalytics.snowplow/contexts/jsonschema/1-0-1"

def unstructuredSchema : String :=
  "iglu:com.snowplowanalytics.snowplow/unstruct_event/jsonschema/1-0-0"

def screenViewSchema : String :=
  "iglu:com.snowplowanalytics.snowplow/screen_view/jsonschema/1-0-0"

def timingSchema : String := "iglu:com.snowplowanalytics.snowplow/timing/jsonschema/1-0-0"

def sessionSchema : String :=
  "iglu:com.snowplowanalytics.snowplow/client_session/jsonschema/1-0-2"

def desktopSchema : String :=
  "iglu:com.snowplowanalytics.snowplow/desktop_context/jsonschema/1-0-0"

def eventTypeKey : String := "e"
def eventIdKey : String := "eid"
def deviceTimeKey : String := "dtm"
def sentTimeKey : String := "stm"
def trueTimeKey : String := "ttm"
def versionKey : String := "tv"
def appIdKey : String := "aid"
def namespaceKey : String := "tna"
def platformKey : String := "p"
def contextsKey : String := "co"
def contextsEncodedKey : String := "cx"
def unstructuredKey : String := "ue_pr"
def unstructuredEncodedKey : String := "ue_px"

def structuredType : String := "se"
def unstructuredType : String := "ue"

def categoryKey : String := "se_ca"
def actionKey : String := "se_ac"
def labelKey : String := "se_la"
def propertyKey : String := "se_pr"
def valueKey : String := "se_va"

def userIdKey : String := "uid"
def resolutionKey : String := "res"
def viewportKey : String := "vp"
def colorDepthKey : String := "cd"
def timezoneKey : String := "tz"
def languageKey : String := "lang"
def useragentKey : String := "ua"
def ipAddressKey : String := "ip"

end Telemetry.Protocol
