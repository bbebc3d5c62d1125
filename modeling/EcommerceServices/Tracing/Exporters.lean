import EcommerceServices.GoError

namespace EcommerceServices
namespace Tracing

/-!
# Span exporters of the OpenTelemetry tracing setup

`NewOtelTracing` builds the services' tracer provider.  Its exporters come
from `configExporters`.  Without `UseOTLP`, each configured backend gets one
exporter, in the fixed order Jaeger, Zipkin, Elastic APM, Uptrace, stdout;
with it, every enabled entry of `OTLPProviders` gets one.  The three OTLP
backends and the provider loop share one option slice, `traceOpts`, which
grows by an endpoint and a header map at every exporter and is passed whole
to `otlptracegrpc.New`.  So an exporter is created with the endpoints of the
exporters before it as well as its own.

The exporter libraries are parameters: each call may fail, and on success
gives an exporter determined by its arguments.  `clientConfig` applies an
option list in order, as `otlptracegrpc` does, each option replacing the
setting it names.  The global tracer provider and propagator that
`initTracer` installs are left out.
-/

/-- `otlptracegrpc.Option`, by the four options `configExporters` passes.
The timeout is in seconds. -/
inductive TraceOption where
  | withTimeout (seconds : Nat)
  | withInsecure
  | withEndpoint (endpoint : String)
  | withHeaders (headers : List (String × String))
  deriving DecidableEq, Repr

/-- A span exporter, by what its library was given. -/
inductive SpanExporter where
  | otlptracegrpc (options : List TraceOption)
  | zipkin (url : String)
  | stdouttrace
  deriving DecidableEq, Repr

/-- The library calls `NewOtelTracing` makes, by the error each returns, if
any: `resource.New`, `otlptracegrpc.New`, `zipkin.New`, `stdouttrace.New`. -/
structure TracingLibrary where
  resourceNew : Option GoError
  otlptracegrpcNew : List TraceOption -> Option GoError
  zipkinNew : String -> Option GoError
  stdouttraceNew : Option GoError

/-- The OTLP endpoint and headers of one backend: the Jaeger, Elastic APM
and Uptrace option records have exactly these two fields in common. -/
structure OTLPExporterOptions where
  otlpEndpoint : String
  otlpHeaders : List (String × String)
  deriving DecidableEq, Repr

/-- `ZipkinExporterOptions`. -/
structure ZipkinExporterOptions where
  url : String
  deriving DecidableEq, Repr

/-- One entry of `OTLPProviders`. -/
structure OTLPProvider where
  enabled : Bool
  otlpEndpoint : String
  otlpHeaders : List (String × String)
  deriving DecidableEq, Repr

/-- `TracingOptions`, by the fields the exporter setup and `initTracer`
read.  A nil option record is `none`. -/
structure TracingOptions where
  useOTLP : Bool
  jaegerExporterOptions : Option OTLPExporterOptions
  zipkinExporterOptions : Option ZipkinExporterOptions
  elasticApmExporterOptions : Option OTLPExporterOptions
  uptraceExporterOptions : Option OTLPExporterOptions
  useStdout : Bool
  otlpProviders : List OTLPProvider
  alwaysOnSampler : Bool
  deriving DecidableEq, Repr

/-- What `configExporters` carries from block to block: the shared
`traceOpts` and the exporters created so far. -/
structure ExporterState where
  traceOpts : List TraceOption
  exporters : List SpanExporter
  deriving DecidableEq, Repr

section Setup

variable (library : TracingLibrary)

/-- The start of `traceOpts`: a five-second timeout, insecure transport. -/
def baseTraceOptions : List TraceOption :=
  [.withTimeout 5, .withInsecure]

/-- One `otlptracegrpc` block: grow the shared options by the endpoint and
headers, create an exporter from all of them, and append it.  A failure
returns the library's error annotated with `message`. -/
def addOtlpExporter (endpoint : String) (headers : List (String × String)) (message : String)
    (state : ExporterState) : Except GoError ExporterState :=
  let traceOpts := state.traceOpts ++ [.withEndpoint endpoint, .withHeaders headers]
  match library.otlptracegrpcNew traceOpts with
  | some err => .error (err.wrapIf message)
  | none => .ok ⟨traceOpts, state.exporters ++ [.otlptracegrpc traceOpts]⟩

/-- The Zipkin block. -/
def addZipkinExporter (url : String) (state : ExporterState) : Except GoError ExporterState :=
  match library.zipkinNew url with
  | some err => .error (err.wrapIf "failed to create exporter for zipkin")
  | none => .ok ⟨state.traceOpts, state.exporters ++ [.zipkin url]⟩

/-- The stdout block. -/
def addStdoutExporter (state : ExporterState) : Except GoError ExporterState :=
  match library.stdouttraceNew with
  | some err => .error (err.wrapIf "creating stdout exporter")
  | none => .ok ⟨state.traceOpts, state.exporters ++ [.stdouttrace]⟩

/-- A block guarded by a nil check on its option record. -/
def whenSet {Options : Type} (options : Option Options)
    (block : Options -> ExporterState -> Except GoError ExporterState)
    (state : ExporterState) : Except GoError ExporterState :=
  match options with
  | some given => block given state
  | none => .ok state

/-- The loop over `OTLPProviders`; a disabled entry is skipped. -/
def configOtlpProviders : List OTLPProvider -> ExporterState -> Except GoError ExporterState
  | [], state => .ok state
  | provider :: providers, state =>
      if !provider.enabled then configOtlpProviders providers state
      else
        addOtlpExporter library provider.otlpEndpoint provider.otlpHeaders
            "failed to create otlptracegrpc exporter" state >>=
          fun next => configOtlpProviders providers next

/-- The five backend blocks `configExporters` runs without `UseOTLP`. -/
def configBackends (config : TracingOptions) (state : ExporterState) :
    Except GoError ExporterState := do
  let state ← whenSet config.jaegerExporterOptions
    (fun jaeger => addOtlpExporter library jaeger.otlpEndpoint jaeger.otlpHeaders
      "failed to create oltptrace exporter for jaeger") state
  let state ← whenSet config.zipkinExporterOptions
    (fun zipkin => addZipkinExporter library zipkin.url) state
  let state ← whenSet config.elasticApmExporterOptions
    (fun elastic => addOtlpExporter library elastic.otlpEndpoint elastic.otlpHeaders
      "failed to create oltptrace exporter for elastic-apm") state
  let state ← whenSet config.uptraceExporterOptions
    (fun uptrace => addOtlpExporter library uptrace.otlpEndpoint uptrace.otlpHeaders
      "failed to create oltptrace exporter for uptrace") state
  if config.useStdout then addStdoutExporter library state else pure state

/-- `configExporters`: the backend blocks, or the provider loop under
`UseOTLP`, from the base options and no exporters. -/
def configExporters (config : TracingOptions) : Except GoError (List SpanExporter) :=
  (if !config.useOTLP then configBackends library config ⟨baseTraceOptions, []⟩
    else configOtlpProviders library config.otlpProviders ⟨baseTraceOptions, []⟩) >>=
    fun state => pure state.exporters

end Setup

end Tracing
end EcommerceServices
