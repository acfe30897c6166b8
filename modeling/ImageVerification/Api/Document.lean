import ImageVerification.Json.Pointer
import ImageVerification.Json.Writer

/-! The description of the API for machines: its paths, what they take and what they answer. -/

namespace ImageVerification.Document

open Json

def text (s : String) : Value := .text (escape s.toList)

def object (fields : List (String × Value)) : Value :=
  .object (fields.map fun (key, value) => (escape key.toList, value))

def texts (items : List String) : Value := .array (items.map text)

/-- Fields with a text, as far as there is one. -/
def optionalText (key : String) (value : Option String) : List (String × Value) :=
  (value.map fun s => (key, text s)).toList

/-! Schemas. -/

def reference (schema : String) : Value :=
  object [("$ref", text ("#/components/schemas/" ++ schema))]

/-- A property of a schema: its type with its format, what it means, and an example. -/
structure Property where
  name : String
  shape : List (String × Value)
  description : Option String
  sample : Option Value

namespace Property

def render (property : Property) : Value :=
  object (property.shape ++ optionalText "description" property.description
    ++ (property.sample.map fun value => ("example", value)).toList)

def plain (name : String) (shape : List (String × Value)) : Property := ⟨name, shape, none, none⟩

def describe (property : Property) (description : String) : Property :=
  { property with description := some description }

def withSample (property : Property) (sample : Value) : Property :=
  { property with sample := some sample }

end Property

def textType : List (String × Value) := [("type", text "string")]

def optionalTextType : List (String × Value) := [("type", texts ["string", "null"])]

def boolType : List (String × Value) := [("type", text "boolean")]

def singleType : List (String × Value) := [("type", text "number"), ("format", text "float")]

def doubleType : List (String × Value) := [("type", text "number"), ("format", text "double")]

def integerType : List (String × Value) := [("type", text "integer"), ("format", text "int64")]

/-- A number written with the given digits. -/
def digits (whole : String) (fraction : Option String) : Value :=
  .number ⟨false, whole.toList, fraction.map String.toList, none⟩

def countType : List (String × Value) :=
  [("type", text "integer"), ("minimum", digits "0" none)]

def timestampType : List (String × Value) :=
  [("type", text "string"), ("format", text "date-time")]

def listType (item : String) : List (String × Value) :=
  [("type", text "array"), ("items", reference item)]

def referenceType (schema : String) : List (String × Value) :=
  [("$ref", text ("#/components/schemas/" ++ schema))]

/-- An object type; its properties are listed by name and required in their own order. -/
structure Schema where
  name : String
  description : String
  properties : List Property
  optional : List String

def Schema.render (schema : Schema) : Value :=
  let names := schema.properties.map (·.name)
  let sorted := schema.properties.mergeSort fun a b => notAfter a.name.toList b.name.toList
  object
    [("type", text "object"), ("description", text schema.description),
     ("required", texts (names.filter fun name => !schema.optional.contains name)),
     ("properties", object (sorted.map fun property => (property.name, property.render)))]

open Property

def duplicateEntry : Schema :=
  {
    name := "DuplicateEntry"
    description := "One earlier or later verification of the same image"
    properties :=
      [plain "request_id" textType, plain "score" singleType, plain "success" boolType,
       plain "details" textType, plain "created_at" timestampType]
    optional := []
  }

def duplicatesResponse : Schema :=
  {
    name := "DuplicatesResponse"
    description := "The requested verification and its duplicates, newest first"
    properties :=
      [plain "request_id" textType, plain "user_id" textType, plain "sha1_hash" textType,
       plain "duplicate_count" countType, plain "duplicates" (listType "DuplicateEntry")]
    optional := []
  }

def healthResponse : Schema :=
  {
    name := "HealthResponse"
    description := "Health check response"
    properties :=
      [((plain "status" textType).describe "Service status: \"ok\" or \"degraded\"").withSample
         (text "ok"),
       (plain "version" textType).describe "Server version from Cargo.toml",
       (plain "service" textType).describe "Service name",
       ((plain "store" textType).describe "Durable store backend in use").withSample
         (text "postgres"),
       ((plain "cache" textType).describe "Cache backend in use").withSample (text "redis")]
    optional := []
  }

def metricsResponse : Schema :=
  {
    name := "MetricsResponse"
    description :=
      "Aggregate figures over every stored verification\n\n"
        ++ "Wire form of [`MetricsSummary`]; the core type stays free of `utoipa`, so the\n"
        ++ "schema derive lives here."
    properties :=
      [plain "total_requests" integerType, plain "successful_requests" integerType,
       ((plain "success_rate" doubleType).describe
         "`successful_requests / total_requests`, 0 when there are none").withSample
         (digits "0" (some "6")),
       plain "average_score" doubleType, plain "average_processing_latency_ms" doubleType]
    optional := []
  }

def readyResponse : Schema :=
  {
    name := "ReadyResponse"
    description := "Readiness response for Kubernetes"
    properties :=
      [(plain "ready" boolType).describe "Whether the service is ready to accept traffic",
       (plain "message" optionalTextType).describe "Optional message explaining status"]
    optional := ["message"]
  }

def resultResponse : Schema :=
  {
    name := "ResultResponse"
    description := "A stored verification"
    properties :=
      [plain "request_id" textType, plain "user_id" textType, plain "score" singleType,
       plain "success" boolType,
       (plain "details" textType).withSample
         (text "status:true score:0.920000 hash:a9993e364706816aba3e25717850c26c9cd0d89d"),
       (plain "sha1_hash" textType).describe "SHA-1 hex digest of the image",
       plain "created_at" timestampType]
    optional := []
  }

def verifyMetadata : Schema :=
  {
    name := "VerifyMetadata"
    description := "Scoring details echoed back with the verdict"
    properties :=
      [(plain "timestamp" timestampType).describe "When the record was created",
       plain "success" boolType, plain "score" singleType]
    optional := []
  }

def verifyResponse : Schema :=
  {
    name := "VerifyResponse"
    description := "Response for a completed verification"
    properties :=
      [((plain "request_id" textType).describe
         ("Identifier for later `/result/\x7bid\x7d` and "
           ++ "`/duplicates/\x7bid\x7d` lookups")).withSample
         (text "5f0c2b9e-7d43-4c36-9a55-3f3a4c1f2e10"),
       ((plain "verified" boolType).describe
         "Whether the scorer judged the image authentic").withSample (.bool true),
       (plain "score" singleType).withSample (digits "0" (some "92")),
       (plain "message" textType).describe "Message returned by the scorer",
       plain "metadata" (referenceType "VerifyMetadata"), plain "created_at" timestampType]
    optional := []
  }

def schemas : List Schema :=
  [duplicateEntry, duplicatesResponse, healthResponse, metricsResponse, readyResponse,
   resultResponse, verifyMetadata, verifyResponse]

/-! Operations. -/

/-- An answer by its status, with the schema of its body. -/
structure Outcome where
  status : Nat
  description : String
  schema : Option String

def jsonContent (schema : String) : Value :=
  object [("application/json", object [("schema", reference schema)])]

def Outcome.render (outcome : Outcome) : String × Value :=
  (String.ofList (Decimal.digits outcome.status),
    object (("description", text outcome.description)
      :: (outcome.schema.map fun schema => ("content", jsonContent schema)).toList))

structure Operation where
  method : String
  path : String
  tag : String
  summary : Option String
  description : Option String
  id : String
  takesId : Bool
  uploads : Bool
  outcomes : List Outcome
  secured : Bool

def idParameter : Value :=
  object
    [("name", text "id"), ("in", text "path"),
     ("description", text "Request ID returned by /verify"), ("required", .bool true),
     ("schema", object textType)]

def uploadBody : Value :=
  object
    [("description", text "Image to verify in the `image` field"),
     ("content", object [("multipart/form-data", object [])])]

/-- The name of the security scheme. -/
def scheme : String := "bearer_token"

def Operation.render (operation : Operation) : String × Value :=
  (operation.path,
    object [(operation.method,
      object ([("tags", texts [operation.tag])]
        ++ optionalText "summary" operation.summary
        ++ optionalText "description" operation.description
        ++ [("operationId", text operation.id)]
        ++ (if operation.takesId then [("parameters", .array [idParameter])] else [])
        ++ (if operation.uploads then [("requestBody", uploadBody)] else [])
        ++ [("responses", object (operation.outcomes.map Outcome.render))]
        ++ (if operation.secured then [("security", .array [object [(scheme, .array [])]])]
            else [])))])

def verification : String := "Verification"

def duplicatesOperation : Operation :=
  {
    method := "get"
    path := "/duplicates/\x7bid\x7d"
    tag := verification
    summary := some "List verifications sharing the image fingerprint of a request"
    description := none
    id := "get_duplicates_handler"
    takesId := true
    uploads := false
    outcomes :=
      [⟨200, "Duplicate report", some "DuplicatesResponse"⟩, ⟨401, "Unauthorized", none⟩,
       ⟨404, "Result not found", none⟩]
    secured := true
  }

def healthOperation : Operation :=
  {
    method := "get"
    path := "/health"
    tag := "Health"
    summary := some "Service health"
    description := some "Reports \"degraded\" when the durable store does not answer a ping."
    id := "health"
    takesId := false
    uploads := false
    outcomes := [⟨200, "Service health", some "HealthResponse"⟩]
    secured := false
  }

def metricsOperation : Operation :=
  {
    method := "get"
    path := "/metrics/summary"
    tag := "Metrics"
    summary := none
    description := none
    id := "metrics_summary_handler"
    takesId := false
    uploads := false
    outcomes :=
      [⟨200, "Metrics summary", some "MetricsResponse"⟩, ⟨401, "Unauthorized", none⟩,
       ⟨500, "Failed to load metrics", none⟩]
    secured := true
  }

def readyOperation : Operation :=
  {
    method := "get"
    path := "/ready"
    tag := "Health"
    summary := some "Kubernetes readiness probe"
    description := some "Returns 200 when the durable store answers a ping, 503 otherwise."
    id := "ready"
    takesId := false
    uploads := false
    outcomes :=
      [⟨200, "Ready to accept traffic", some "ReadyResponse"⟩,
       ⟨503, "Durable store unreachable", some "ReadyResponse"⟩]
    secured := false
  }

def resultOperation : Operation :=
  {
    method := "get"
    path := "/result/\x7bid\x7d"
    tag := verification
    summary := some "Fetch a verification result owned by the caller"
    description := none
    id := "get_result_handler"
    takesId := true
    uploads := false
    outcomes :=
      [⟨200, "Verification result", some "ResultResponse"⟩, ⟨401, "Unauthorized", none⟩,
       ⟨404, "Result not found", none⟩]
    secured := true
  }

def verifyOperation : Operation :=
  {
    method := "post"
    path := "/verify"
    tag := verification
    summary := some "Verify an image"
    description := some
      ("Accepts multipart/form-data with:\n"
        ++ "- **image** (required): JPEG, PNG, GIF or WebP, at most 8 MiB by default\n\n"
        ++ "Uploading the same image twice for the same user is rejected with 409.")
    id := "verify_handler"
    takesId := false
    uploads := true
    outcomes :=
      [⟨200, "Verification completed", some "VerifyResponse"⟩,
       ⟨400, "Missing or empty image", none⟩, ⟨401, "Unauthorized", none⟩,
       ⟨409, "Image already verified for this user", none⟩, ⟨413, "Image too large", none⟩,
       ⟨415, "Unsupported image type", none⟩, ⟨503, "Image processor unavailable", none⟩]
    secured := true
  }

def operations : List Operation :=
  [duplicatesOperation, healthOperation, metricsOperation, readyOperation, resultOperation,
   verifyOperation]

/-! The whole document. -/

def description : String :=
  "\n## Image Verification API\n\n"
    ++ "Submit an image to `POST /verify`. The image is scored by the image processor,\n"
    ++ "the outcome is stored durably and cached, and a `request_id` is returned for\n"
    ++ "later lookups via `GET /result/\x7bid\x7d` and `GET /duplicates/\x7bid\x7d`.\n\n"
    ++ "Images are fingerprinted with SHA-1; the same image can be verified only once\n"
    ++ "per user.\n"

def information : Value :=
  object
    [("title", text "AI Check API"), ("description", text description),
     ("license", object [("name", text "MIT OR Apache-2.0")]), ("version", text "0.1.0")]

def tag (name description : String) : Value :=
  object [("name", text name), ("description", text description)]

def bearerScheme : Value :=
  object [("type", text "http"), ("scheme", text "bearer"), ("bearerFormat", text "JWT")]

/-- Everything about the API. -/
def whole : Value :=
  object
    [("openapi", text "3.1.0"), ("info", information),
     ("paths", object (operations.map Operation.render)),
     ("components", object
        [("schemas", object (schemas.map fun schema => (schema.name, schema.render))),
         ("securitySchemes", object [(scheme, bearerScheme)])]),
     ("tags", .array
        [tag verification "Verify images and look up results",
         tag "Metrics" "Aggregate verification metrics",
         tag "Health" "Service health and readiness endpoints"])]

/-- The value at a place in the document. -/
def find? (pointer : String) : Option Value :=
  (Pointer.parse? pointer.toList).bind whole.at?

def render : List Char := Writer.value whole

end ImageVerification.Document
