/-
# The built-in catalogue

What is known of the step from Hummingbird 1 to Hummingbird 2.  The rules are grouped by
topic, and findings are reported in their order.  An id that was given once keeps its meaning.
-/
import Deprecation.Catalogue

namespace Deprecation.Catalogue

/-- Midnight at the start of a day. -/
def day (year : Int) (month day : Nat)
    (h : Instant.Fields.isValid ⟨year, month, day, 0, 0, 0, 0⟩ = true := by decide) : Instant :=
  ⟨⟨year, month, day, 0, 0, 0, 0⟩, h⟩

/-- The entries of the built-in catalogue. -/
def builtinEntries : List Entry :=
  [ { id := "application-setup"
      title := "Building an Application in Hummingbird 2"
      content :=
        "Create a `Router`, register routes on it, then pass it to\n" ++
        "`Application(router:configuration:)` and call `runService()`.\n" ++
        "The `HB` prefix was dropped from every public type in 2.0.\n"
      versions := ">=2.0.0"
      confidence := .high
      verifiedAt := day 2025 6 2 },
    { id := "request-context-logger"
      title := "Logging from a route handler"
      content :=
        "Request handlers receive a context alongside the request. Log through\n" ++
        "`context.logger`; the request itself no longer carries a logger.\n"
      versions := ">=2.0.0"
      confidence := .high
      verifiedAt := day 2025 6 2 },
    { id := "async-handlers"
      title := "Async route handlers"
      content :=
        "Route handlers are `async` functions. Await results instead of blocking on\n" ++
        "an `EventLoopFuture`, and use `try await Task.sleep(for:)` for delays.\n"
      versions := ">=2.0.0"
      confidence := .high
      verifiedAt := day 2025 6 2 },
    { id := "foundation-merge"
      title := "HummingbirdFoundation was folded into Hummingbird"
      content :=
        "Files, cookies and date handling moved into the main `Hummingbird` module.\n" ++
        "Remove `import HummingbirdFoundation`.\n"
      versions := ">=2.0.0"
      confidence := .medium
      verifiedAt := day 2025 3 14 }]

/-- The rules of the built-in catalogue. -/
def builtinRules : List StaticRule :=
  [ { id := "hb-eventloopfuture-wait"
      pattern := "\\.wait\\(\\)"
      description :=
        "Blocking on an EventLoopFuture with .wait() stalls the event loop and can deadlock " ++
        "the server."
      correction := some "async-handlers"
      severity := .error },
    { id := "hb-dispatch-main-sync"
      pattern := "\\bDispatchQueue\\.main\\.sync\\b"
      description :=
        "DispatchQueue.main.sync from a request handler can deadlock; server code has no " ++
        "main-thread requirement."
      correction := some "async-handlers"
      severity := .error },
    { id := "hb-blocking-sleep"
      pattern := "\\b(?:Thread\\.sleep|usleep|sleep)\\("
      description :=
        "Blocking sleep inside a handler stalls the event loop; use Task.sleep instead."
      correction := some "async-handlers"
      severity := .warning },
    { id := "hb-request-logger"
      pattern := "\\brequest\\.logger\\b"
      description :=
        "The request no longer carries a logger in Hummingbird 2; log through the request " ++
        "context."
      correction := some "request-context-logger"
      severity := .warning },
    { id := "hb-foundation-import"
      pattern := "\\bimport\\s+HummingbirdFoundation\\b"
      description :=
        "HummingbirdFoundation no longer exists as a separate module in Hummingbird 2."
      correction := some "foundation-merge"
      severity := .error },
    { id := "hb-force-try"
      pattern := "\\btry!"
      description :=
        "Force-try in server code crashes the whole process on the first thrown error."
      correction := none
      severity := .warning }]

/-- The catalogue that is used when no other one is chosen. -/
def builtin : Catalogue := ⟨builtinEntries, builtinRules⟩

end Deprecation.Catalogue
