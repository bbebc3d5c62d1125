import EcommerceServices.Tracing.Exporters

namespace EcommerceServices
namespace Tracing

/-!
# The constructor calls of the exporter setup

`configExporters` threads one `traceOpts` slice through its blocks and grows
it before every OTLP exporter it creates.  Here the setup is restated without
the thread.  The tracing options ask for a list of exporter requests, in
block order; the request at position `k`, if it is an OTLP one, is created
with the base options followed by the endpoints and headers of every OTLP
request up to and including position `k`.  `configExporters_calls` shows
that the code makes exactly these constructor calls, in order, and returns
all their exporters or else the error of the first call that fails, under
its block's annotation: `List.mapM` in `Except`.

The bridge is `addRequests`, the requests' blocks run one after another on
the shared state, as the code runs them.  The provider loop and the five
backend blocks are each that fold, and the fold makes the plain calls from
any starting slice.
-/

/-- One exporter the tracing options ask for; an OTLP one carries the
annotation its constructor's error gets. -/
inductive ExporterRequest where
  | otlp (endpoint : String) (headers : List (String × String)) (message : String)
  | zipkin (url : String)
  | stdout
  deriving DecidableEq, Repr

namespace ExporterRequest

/-- The options a request appends to the shared slice: an OTLP request's
endpoint and headers. -/
def traceOptions : ExporterRequest -> List TraceOption
  | .otlp endpoint headers _ => [.withEndpoint endpoint, .withHeaders headers]
  | _ => []

variable (library : TracingLibrary)

/-- The block of `configExporters` that serves the request. -/
def add : ExporterRequest -> ExporterState -> Except GoError ExporterState
  | .otlp endpoint headers message => addOtlpExporter library endpoint headers message
  | .zipkin url => addZipkinExporter library url
  | .stdout => addStdoutExporter library

/-- The request's constructor call, passed `options` when it is an OTLP one:
the exporter, or the library's error under the block's annotation. -/
def create (options : List TraceOption) : ExporterRequest -> Except GoError SpanExporter
  | .otlp _ _ message =>
      match library.otlptracegrpcNew options with
      | some err => .error (err.wrapIf message)
      | none => .ok (.otlptracegrpc options)
  | .zipkin url =>
      match library.zipkinNew url with
      | some err => .error (err.wrapIf "failed to create exporter for zipkin")
      | none => .ok (.zipkin url)
  | .stdout =>
      match library.stdouttraceNew with
      | some err => .error (err.wrapIf "creating stdout exporter")
      | none => .ok .stdouttrace

/-- The annotation the request's block puts on its constructor's error. -/
def message : ExporterRequest -> String
  | .otlp _ _ message => message
  | .zipkin _ => "failed to create exporter for zipkin"
  | .stdout => "creating stdout exporter"

/-- The exporter the request's constructor creates when passed `options`. -/
def exporter (options : List TraceOption) : ExporterRequest -> SpanExporter
  | .otlp _ _ _ => .otlptracegrpc options
  | .zipkin url => .zipkin url
  | .stdout => .stdouttrace

/-- A block grows the slice by the request's options, makes the request's
constructor call on the grown slice, and appends the exporter. -/
theorem add_eq_create (request : ExporterRequest) (state : ExporterState) :
    request.add library state =
      request.create library (state.traceOpts ++ request.traceOptions) >>= fun exporter =>
        pure ⟨state.traceOpts ++ request.traceOptions, state.exporters ++ [exporter]⟩ := by
  cases request with
  | otlp endpoint headers message =>
      simp only [add, create, addOtlpExporter, traceOptions]
      cases library.otlptracegrpcNew (state.traceOpts ++ _) <;> rfl
  | zipkin url =>
      simp only [add, create, addZipkinExporter, traceOptions, List.append_nil]
      cases library.zipkinNew url <;> rfl
  | stdout =>
      simp only [add, create, addStdoutExporter, traceOptions, List.append_nil]
      cases library.stdouttraceNew <;> rfl

end ExporterRequest

/-- The requests of the enabled OTLP providers, in order. -/
def providerRequests (providers : List OTLPProvider) : List ExporterRequest :=
  (providers.filter (·.enabled)).map fun provider =>
    .otlp provider.otlpEndpoint provider.otlpHeaders "failed to create otlptracegrpc exporter"

/-- The requests of the five backend blocks: each configured backend, in
block order. -/
def TracingOptions.backendRequests (config : TracingOptions) : List ExporterRequest :=
  (config.jaegerExporterOptions.map fun jaeger => ExporterRequest.otlp jaeger.otlpEndpoint
      jaeger.otlpHeaders "failed to create oltptrace exporter for jaeger").toList ++
    ((config.zipkinExporterOptions.map fun zipkin => ExporterRequest.zipkin zipkin.url).toList ++
    ((config.elasticApmExporterOptions.map fun elastic => ExporterRequest.otlp elastic.otlpEndpoint
        elastic.otlpHeaders "failed to create oltptrace exporter for elastic-apm").toList ++
    ((config.uptraceExporterOptions.map fun uptrace => ExporterRequest.otlp uptrace.otlpEndpoint
        uptrace.otlpHeaders "failed to create oltptrace exporter for uptrace").toList ++
    (if config.useStdout then [ExporterRequest.stdout] else []))))

/-- The exporters the tracing options ask for, in the order they are created. -/
def TracingOptions.exporterRequests (config : TracingOptions) : List ExporterRequest :=
  if config.useOTLP then providerRequests config.otlpProviders else config.backendRequests

/-- The constructor calls the requests make from a slice that starts as
`options`: each request with all the options an OTLP exporter for it is
created with, those of every request up to its own included. -/
def requestCalls (options : List TraceOption) (requests : List ExporterRequest) :
    List (ExporterRequest × List TraceOption) :=
  requests.mapIdx fun position request =>
    (request, options ++ (requests.take (position + 1)).flatMap ExporterRequest.traceOptions)

theorem requestCalls_cons (options : List TraceOption) (request : ExporterRequest)
    (requests : List ExporterRequest) :
    requestCalls options (request :: requests) =
      (request, options ++ request.traceOptions) ::
        requestCalls (options ++ request.traceOptions) requests := by
  simp [requestCalls, List.append_assoc]

section Requests

variable (library : TracingLibrary)

/-- The requests' blocks run one after another on the shared state, as
`configExporters` runs its blocks: the first error ends the run. -/
def addRequests : List ExporterRequest -> ExporterState -> Except GoError ExporterState
  | [], state => .ok state
  | request :: requests, state => request.add library state >>= addRequests requests

theorem addRequests_append (requests more : List ExporterRequest) :
    addRequests library (requests ++ more) =
      fun state => addRequests library requests state >>= addRequests library more := by
  funext state
  induction requests generalizing state with
  | nil => rfl
  | cons request requests ih =>
      show request.add library state >>= addRequests library (requests ++ more) =
        (request.add library state >>= addRequests library requests) >>= addRequests library more
      cases request.add library state with
      | error err => rfl
      | ok next => exact ih next

theorem addRequests_singleton (request : ExporterRequest) (state : ExporterState) :
    addRequests library [request] state = request.add library state := by
  show request.add library state >>= (fun next => .ok next) = _
  cases request.add library state <;> rfl

/-- A block behind a nil check serves the request of the option record, if
it is set. -/
theorem whenSet_requests {Options : Type} (options : Option Options)
    (request : Options -> ExporterRequest) (state : ExporterState) :
    whenSet options (fun given => (request given).add library) state =
      addRequests library (options.map request).toList state := by
  cases options with
  | none => rfl
  | some given => exact (addRequests_singleton library _ state).symm

theorem stdout_requests (useStdout : Bool) :
    (fun state => if useStdout then addStdoutExporter library state else pure state) =
      addRequests library (if useStdout then [ExporterRequest.stdout] else []) := by
  funext state
  cases useStdout
  · rfl
  · exact (addRequests_singleton library ExporterRequest.stdout state).symm

/-- The provider loop serves the enabled providers' requests. -/
theorem configOtlpProviders_requests (providers : List OTLPProvider) (state : ExporterState) :
    configOtlpProviders library providers state =
      addRequests library (providerRequests providers) state := by
  induction providers generalizing state with
  | nil => rfl
  | cons provider providers ih =>
      cases enabled : provider.enabled
      · simp [configOtlpProviders, providerRequests, enabled, ih]
      · simp [configOtlpProviders, providerRequests, enabled, ih, addRequests,
          ExporterRequest.add]

/-- The five backend blocks serve the configured backends' requests. -/
theorem configBackends_requests (config : TracingOptions) (state : ExporterState) :
    configBackends library config state =
      addRequests library config.backendRequests state := by
  simp only [TracingOptions.backendRequests, addRequests_append, ← whenSet_requests,
    ← stdout_requests]
  rfl

theorem configExporters_requests (config : TracingOptions) :
    configExporters library config =
      addRequests library config.exporterRequests ⟨baseTraceOptions, []⟩ >>= fun state =>
        pure state.exporters := by
  unfold configExporters TracingOptions.exporterRequests
  cases config.useOTLP <;>
    simp only [configBackends_requests, configOtlpProviders_requests, Bool.not_false,
      Bool.not_true, ↓reduceIte, Bool.false_eq_true]

/-- From any slice, the blocks make the plain constructor calls, in order:
they leave the slice grown by every request's options and append every
exporter, or return the first call's error. -/
theorem addRequests_calls (requests : List ExporterRequest) (options : List TraceOption)
    (exporters : List SpanExporter) :
    addRequests library requests ⟨options, exporters⟩ =
      (requestCalls options requests).mapM (fun call => call.1.create library call.2) >>=
        fun created =>
          pure ⟨options ++ requests.flatMap ExporterRequest.traceOptions, exporters ++ created⟩ := by
  induction requests generalizing options exporters with
  | nil =>
      show Except.ok ⟨options, exporters⟩ = (pure ⟨options ++ [].flatMap ExporterRequest.traceOptions,
        exporters ++ []⟩ : Except GoError ExporterState)
      rw [List.flatMap_nil, List.append_nil, List.append_nil]
      rfl
  | cons request requests ih =>
      rw [requestCalls_cons, List.mapM_cons]
      show request.add library ⟨options, exporters⟩ >>= addRequests library requests = _
      rw [ExporterRequest.add_eq_create]
      cases request.create library (options ++ request.traceOptions) with
      | error err => rfl
      | ok exporter =>
          show addRequests library requests _ = _
          rw [ih]
          cases (requestCalls (options ++ request.traceOptions) requests).mapM
              (fun call => call.1.create library call.2) with
          | error err => rfl
          | ok created =>
              simp only [List.flatMap_cons, List.append_assoc, List.singleton_append]
              rfl

/-- `configExporters` makes exactly the plain constructor calls of the
requests the tracing options ask for, in order: the request at position `k`
is created, if it is an OTLP one, from the base options followed by the
endpoint and headers of every OTLP request up to and including position `k`.
It returns the exporters of all the calls, or else the error of the first
call that fails, under that block's annotation. -/
theorem configExporters_calls (config : TracingOptions) :
    configExporters library config =
      (requestCalls baseTraceOptions config.exporterRequests).mapM fun call =>
        call.1.create library call.2 := by
  rw [configExporters_requests, addRequests_calls]
  cases (requestCalls baseTraceOptions config.exporterRequests).mapM
      (fun call => call.1.create library call.2) <;> rfl

end Requests

/-- Two OTLP requests: the second call is passed the first's endpoint and
headers as well as its own. -/
example : requestCalls baseTraceOptions
      [.otlp "a:4317" [] "failed to create otlptracegrpc exporter",
        .otlp "b:4317" [] "failed to create otlptracegrpc exporter"] =
    [(.otlp "a:4317" [] "failed to create otlptracegrpc exporter",
        [.withTimeout 5, .withInsecure, .withEndpoint "a:4317", .withHeaders []]),
      (.otlp "b:4317" [] "failed to create otlptracegrpc exporter",
        [.withTimeout 5, .withInsecure, .withEndpoint "a:4317", .withHeaders [],
          .withEndpoint "b:4317", .withHeaders []])] := rfl

end Tracing
end EcommerceServices
