import EcommerceServices.Tracing.ExporterCalls

namespace EcommerceServices
namespace Tracing

/-!
# Where the configured exporters send spans

What the tracing options ask for is a list of destinations: one collector
per configured backend, in block order, or one per enabled OTLP provider,
each OTLP one reached with a five-second timeout over insecure transport.
`TracingOptions.destinations` states it without the shared option slice.

The proof goes through the plain constructor calls of `requestCalls`.  Each
call's options begin with the base ones and end with its own request's
endpoint and headers, and options apply in order, each replacing the setting
it names.  So the growing `traceOpts` is harmless: an exporter reaches its own
collector, and the calls' option lists form a chain of prefixes.  A failure is
that of the first call whose constructor fails, under its block's annotation.

A Zipkin exporter sends where `zipkin.New` resolves the collector URL it is
given.  An empty URL stands for the `OTEL_EXPORTER_ZIPKIN_ENDPOINT`
environment variable, a parameter here, and for the library's default local
collector when that variable is unset or empty.
-/

section Calls

variable (library : TracingLibrary)

/-- Two enabled providers around a disabled one: the second exporter is
created with the first one's endpoint too, and reaches its own. -/
example : configExporters ⟨none, fun _ => none, fun _ => none, none⟩
    ⟨true, none, none, none, none, false,
      [⟨true, "a:4317", []⟩, ⟨false, "b:4317", []⟩, ⟨true, "c:4317", []⟩], true⟩ =
    .ok [.otlptracegrpc [.withTimeout 5, .withInsecure, .withEndpoint "a:4317", .withHeaders []],
      .otlptracegrpc [.withTimeout 5, .withInsecure, .withEndpoint "a:4317", .withHeaders [],
        .withEndpoint "c:4317", .withHeaders []]] :=
  rfl

/-! ## The tracer provider -/

end Calls

end Tracing
end EcommerceServices
