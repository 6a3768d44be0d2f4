import StackWatch.Check.Report
import StackWatch.Session.Operation

/-!
# Journals

A run of the check writes a journal: every operation that it has its session do, what the operation
left behind, the gauges and service checks that it emits, and the components that it finds missing
or gives up. Entries are only ever added at the end. All that is told of a run afterwards, its
report and its log included, is read off its journal, and so is what the run itself asks for as it
goes on: which components it has given up.
-/

namespace StackWatch

/-- One entry of a journal. -/
inductive Entry where
  /-- the session begins an operation -/
  | operation (operation : Operation)
  /-- an event of the operation that was begun last, or a notice of the run -/
  | event (event : Event)
  | metric (metric : Metric)
  | check (check : ServiceCheck)
  /-- a component was found missing -/
  | missing (component : Component)
  /-- a component is not polled any more -/
  | skipped (component : Component)

namespace Entry

/-- The operation that an entry begins. -/
def operation? : Entry → Option Operation
  | operation op => some op
  | _ => none

/-- The event that an entry records. -/
def event? : Entry → Option Event
  | event e => some e
  | _ => none

/-- The gauge that an entry records. -/
def metric? : Entry → Option Metric
  | metric m => some m
  | _ => none

/-- The service check that an entry records. -/
def check? : Entry → Option ServiceCheck
  | check c => some c
  | _ => none

/-- The component that an entry finds missing. -/
def missing? : Entry → Option Component
  | missing c => some c
  | _ => none

/-- The component that an entry gives up. -/
def skipped? : Entry → Option Component
  | skipped c => some c
  | _ => none

end Entry

/-- What an operation leaves in a journal: that it was begun, and its trace. -/
def Operation.record (op : Operation) (trace : List Event) : List Entry :=
  .operation op :: trace.map .event

/-! ## What a journal tells -/

/-- The operations of a journal. -/
def operationsOf (journal : List Entry) : List Operation := journal.filterMap Entry.operation?

/-- The trace that a journal records. -/
def eventsOf (journal : List Entry) : List Event := journal.filterMap Entry.event?

/-- The gauges emitted. -/
def metricsOf (journal : List Entry) : List Metric := journal.filterMap Entry.metric?

/-- The service checks emitted. -/
def checksOf (journal : List Entry) : List ServiceCheck := journal.filterMap Entry.check?

/-- The components found missing, in the order in which they were. -/
def missingOf (journal : List Entry) : List Component := journal.filterMap Entry.missing?

/-- The components that are not polled any more. -/
def skippedOf (journal : List Entry) : List Component := journal.filterMap Entry.skipped?

/-- What a run has to report. -/
def reportOf (journal : List Entry) : Report :=
  ⟨metricsOf journal, checksOf journal, missingOf journal⟩

variable {before after : List Entry}

@[simp] theorem operationsOf_append :
    operationsOf (before ++ after) = operationsOf before ++ operationsOf after :=
  List.filterMap_append

@[simp] theorem eventsOf_append :
    eventsOf (before ++ after) = eventsOf before ++ eventsOf after :=
  List.filterMap_append

@[simp] theorem metricsOf_append :
    metricsOf (before ++ after) = metricsOf before ++ metricsOf after :=
  List.filterMap_append

@[simp] theorem checksOf_append :
    checksOf (before ++ after) = checksOf before ++ checksOf after :=
  List.filterMap_append

@[simp] theorem missingOf_append :
    missingOf (before ++ after) = missingOf before ++ missingOf after :=
  List.filterMap_append

@[simp] theorem skippedOf_append :
    skippedOf (before ++ after) = skippedOf before ++ skippedOf after :=
  List.filterMap_append

end StackWatch
