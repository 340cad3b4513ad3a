import Reconciler.Controller
/-!
Counts of reconciles and of their errors, and how long reconciles took. Reading a count
starts its series at zero.
-/

set_option autoImplicit false

namespace Reconciler

/-- Durations sorted into buckets, each of which holds what is not longer than its bound. -/
structure Histogram where
  durations : List Duration

namespace Histogram

def bounds : List Nat := [5, 10, 50, 100, 250, 500, 1000, 2500, 5000, 10000, 30000]

def count (h : Histogram) : Nat := h.durations.length

def sumMicros (h : Histogram) : Nat :=
  (h.durations.foldl (fun n d => n + d.nanos) 500) / 1000

def buckets (h : Histogram) : List Nat :=
  bounds.map fun bound => h.durations.countP fun d => d.nanos ≤ (Duration.ofMillis bound).nanos

end Histogram

inductive Sample where
  | count (n : Nat)
  | histogram (h : Histogram)

structure Series where
  name : String
  labels : List (String × String)
  sample : Sample

structure Metrics where
  /-- By kind, then outcome. -/
  reconciles : SortedMap String (SortedMap String Nat)
  /-- By class of errors, then kind. -/
  errors : SortedMap String (SortedMap String Nat)
  /-- By kind. -/
  durations : SortedMap String Histogram

namespace Metrics

abbrev Table := SortedMap String (SortedMap String Nat)

/-- A number of a table, zero if it is not there. -/
def cell (t : Table) (a b : String) : Nat := ((t.get? a).bind (·.get? b)).getD 0

def setCell (t : Table) (a b : String) (n : Nat) : Table :=
  t.insert a (((t.get? a).getD ∅).insert b n)

def empty : Metrics := ⟨∅, ∅, ∅⟩

instance : Inhabited Metrics := ⟨empty⟩

def reconcileCount (m : Metrics) (kind : String) (o : Outcome) : Nat := cell m.reconciles kind o.label

def errorCount (m : Metrics) (kind label : String) : Nat := cell m.errors label kind

def observe (m : Metrics) (kind : String) (o : Outcome) (elapsed : Duration) : Metrics :=
  { m with
    reconciles := setCell m.reconciles kind o.label (m.reconcileCount kind o + 1)
    durations := m.durations.insert kind
      ⟨elapsed :: ((m.durations.get? kind).map (·.durations)).getD []⟩ }

def observeError (m : Metrics) (kind : String) (e : Error) (elapsed : Duration) : Metrics :=
  let m := m.observe kind .error elapsed
  { m with errors := setCell m.errors e.label kind (m.errorCount kind e.label + 1) }

/-- Counts what a reconcile ended with; one that crashed does not count. -/
def record (m : Metrics) (kind : String) (elapsed : Duration) :
    Except Stop (Decision × Outcome) → Metrics
  | .ok (_, o) => m.observe kind o elapsed
  | .error (.failed e) => m.observeError kind e elapsed
  | .error (.crashed _) => m

/-- Reads a count and starts its series. -/
def readReconciles (m : Metrics) (kind : String) (o : Outcome) : Nat × Metrics :=
  let n := m.reconcileCount kind o
  (n, { m with reconciles := setCell m.reconciles kind o.label n })

def readErrors (m : Metrics) (kind label : String) : Nat × Metrics :=
  let n := m.errorCount kind label
  (n, { m with errors := setCell m.errors label kind n })

/-- Every series, families and label values in order. -/
def gather (m : Metrics) : List Series :=
  (m.durations.entries.map fun (kind, h) =>
    ⟨"delegator_reconcile_duration_seconds", [("kind", kind)], .histogram h⟩) ++
  (m.errors.entries.flatMap fun (label, row) => row.entries.map fun (kind, n) =>
    ⟨"delegator_reconcile_errors_total", [("error", label), ("kind", kind)], .count n⟩) ++
  (m.reconciles.entries.flatMap fun (kind, row) => row.entries.map fun (outcome, n) =>
    ⟨"delegator_reconcile_total", [("kind", kind), ("outcome", outcome)], .count n⟩)

def describe : String := "ControllerMetrics \x7b .. \x7d"

def errorLabels : List String :=
  ["already_exists", "cancelled", "conflict", "conversion", "forbidden", "internal", "not_found",
   "unavailable", "validation"]

end Metrics

end Reconciler
