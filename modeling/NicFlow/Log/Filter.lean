import NicFlow.Log.Event
import NicFlow.Log.Field

/-! Which events are shown. A filter is a list of directives, each with a threshold. A directive about
events applies to the targets that begin with its target; of several that apply to an event the most
specific decides. A directive about spans shows all events within them up to its threshold. -/

namespace NicFlow.Log

/-- The least severe level that is shown. -/
inductive Threshold where
  | off | error | warn | info | debug | trace
deriving DecidableEq, Repr

namespace Threshold

def all : List Threshold := [.off, .error, .warn, .info, .debug, .trace]

def name : Threshold → String
  | .off => "off"
  | .error => "error"
  | .warn => "warn"
  | .info => "info"
  | .debug => "debug"
  | .trace => "trace"

/-- The position among the thresholds, from the one that shows nothing. -/
def rank : Threshold → Nat
  | .off => 0
  | .error => 1
  | .warn => 2
  | .info => 3
  | .debug => 4
  | .trace => 5

/-- A threshold is given by its rank or by its name in any case. -/
def parse? (text : List Char) : Option Threshold :=
  let digits := match text with
    | '+' :: rest => rest
    | _ => text
  match Text.ofDecimal? digits with
  | some number => all[number]?
  | none => all.find? fun threshold => threshold.name.toList = text.map Char.toLower

end Threshold

def Level.threshold : Level → Threshold
  | .trace => .trace
  | .debug => .debug
  | .info => .info
  | .warn => .warn
  | .error => .error

/-- What a directive is about. -/
structure Subject where
  target : Option String
  span : Option String
  fields : List FieldFilter
deriving DecidableEq, Repr

structure Directive where
  subject : Subject
  threshold : Threshold
deriving DecidableEq, Repr

namespace Subject

/-- The subject of all events. -/
def everything : Subject := ⟨none, none, []⟩

def ofTarget (target : String) : Subject := ⟨some target, none, []⟩

/-- The part in brackets. -/
def renderSpan (subject : Subject) : String :=
  if subject.span = none ∧ subject.fields = [] then ""
  else
    let fields := ",".intercalate (subject.fields.map FieldFilter.render)
    "[" ++ subject.span.getD "" ++
      (if subject.fields = [] then "" else "\x7b" ++ fields ++ "\x7d") ++ "]"

def render (subject : Subject) : String := subject.target.getD "" ++ subject.renderSpan

/-- Whether a subject is about spans: it names them, or asks for the value of a field. -/
def isAboutSpans (subject : Subject) : Bool :=
  subject.span.isSome ∨ subject.fields.any (·.value.isSome)

def hasTarget (subject : Subject) (target : String) : Bool :=
  (subject.target.getD "").toList.isPrefixOf target.toList

/-- Whether an event is in the subject. The only field of an event is its message. -/
def covers (subject : Subject) (event : Event) : Bool :=
  ¬subject.isAboutSpans ∧ subject.hasTarget event.target ∧
    subject.fields.all (·.name = "message")

def coversSpan (subject : Subject) (span : Span) : Bool :=
  subject.isAboutSpans ∧ subject.hasTarget span.target ∧ subject.span.all (· = span.name) ∧
    subject.fields.all (·.holds span.fields)

/-- The subject by which a directive is found among others. -/
def key (subject : Subject) : Subject := { subject with fields := subject.fields.map FieldFilter.key }

/-- The length of the target, with a place below all lengths for none. -/
def weight (subject : Subject) : Nat :=
  match subject.target with
  | some target => target.utf8ByteSize + 1
  | none => 0

/-- A longer target is more specific, and of equal ones the one with more fields. -/
def isMoreSpecific (left right : Subject) : Bool :=
  right.weight < left.weight ∨
    (left.weight = right.weight ∧ right.fields.length < left.fields.length)

end Subject

namespace Directive

def render (directive : Directive) : String :=
  let subject := directive.subject.render
  if directive.subject = .everything then directive.threshold.name
  else subject ++ "=" ++ directive.threshold.name

/-- The threshold after an equals sign; an empty one shows everything. -/
def thresholdAfter (text : List Char) : Option Threshold :=
  if text.isEmpty then some .trace else Threshold.parse? text

/-- What follows a closing bracket. -/
def afterSpan (subject : Subject) : List Char → Option Directive
  | [] => some ⟨subject, .trace⟩
  | '=' :: text => (thresholdAfter text).map (⟨subject, ·⟩)
  | _ => none

/-- What stands in brackets, after the opening one. -/
def bracketed (target : Option String) (text : List Char) : Option Directive :=
  match text.span fun character => character ≠ ']' ∧ character ≠ '\x7b' with
  | (span, ']' :: rest) => afterSpan ⟨target, some (String.ofList span), []⟩ rest
  | (span, '\x7b' :: rest) =>
    match rest.span fun character => character ≠ '\x7d' with
    | (field, '\x7d' :: ']' :: rest) =>
      if field.isEmpty then none
      else
        let span := if span.isEmpty then none else some (String.ofList span)
        (FieldFilter.parse? field).bind fun field => afterSpan ⟨target, span, [field]⟩ rest
    | _ => none
  | _ => none

/-- A threshold for everything, or a target with an optional threshold for it. -/
def parse? (text : List Char) : Option Directive :=
  match text with
  | [] => some ⟨.everything, .trace⟩
  | '[' :: rest => bracketed none rest
  | first :: _ =>
    if first ∈ ['-', ':', '_'] ∨ Text.isAlphanumeric first then
      match text.span fun character => character ≠ '=' ∧ character ≠ '[' with
      | (name, '=' :: rest) =>
        (thresholdAfter rest).map (⟨.ofTarget (String.ofList name), ·⟩)
      | (name, '[' :: rest) => bracketed (some (String.ofList name)) rest
      | (name, _) =>
        match Threshold.parse? name with
        | some threshold => some ⟨.everything, threshold⟩
        | none => some ⟨.ofTarget (String.ofList name), .trace⟩
    else none

end Directive

/-- Directives with distinct subjects. -/
structure Filter where
  directives : List Directive
  /-- The threshold that shows most, of these directives and those that they replaced. -/
  widest : Threshold

namespace Filter

/-- Adds a directive in place of an earlier one of its subject. -/
def add (filter : Filter) (directive : Directive) : Filter where
  directives := filter.directives.filter (·.subject.key ≠ directive.subject.key) ++ [directive]
  widest :=
    if filter.widest.rank < directive.threshold.rank then directive.threshold else filter.widest

/-- The filter without configuration: the targets of the connection show errors only. -/
def default : Filter where
  directives := ⟨.everything, .info⟩ ::
    ["tonic", "h2", "tower", "hyper"].map fun target => ⟨.ofTarget target, .error⟩
  widest := .info

/-- The parts of a configuration that hold something. -/
def parts (configuration : String) : List (List Char) :=
  ((Text.splitAll ',' configuration.toList).map Text.trim).filter (· ≠ [])

/-- The default filter with the directives of a configuration; otherwise the first part that is no
directive. -/
def parse (configuration : String) : Except String Filter :=
  (parts configuration).foldlM (fun filter part =>
    match Directive.parse? part with
    | some directive => .ok (filter.add directive)
    | none => .error (String.ofList part)) default

/-- The directives as texts, in increasing order. -/
def render (filter : Filter) : List String :=
  (filter.directives.map Directive.render).mergeSort (· ≤ ·)

/-- The most specific directive for an event. -/
def directiveFor (filter : Filter) (event : Event) : Option Directive :=
  (filter.directives.filter (·.subject.covers event)).foldl (fun best directive =>
    match best with
    | some found => if directive.subject.isMoreSpecific found.subject then some directive else best
    | none => some directive) none

/-- The levels at which work is noticed at all. The values of fields are known only of work that is
noticed, so a directive that asks for one makes all work be noticed. -/
def noticed (filter : Filter) : Threshold :=
  if filter.directives.any (·.subject.fields.any (·.value.isSome)) then .trace else filter.widest

/-- Whether a directive about spans shows the events of a level within a span. -/
def showsWithin (filter : Filter) (level : Level) (span : Span) : Bool :=
  span.level.threshold.rank ≤ filter.noticed.rank ∧ filter.directives.any fun directive =>
    directive.subject.coversSpan span ∧ level.threshold.rank ≤ directive.threshold.rank

def shows (filter : Filter) (event : Event) : Bool :=
  event.spans.any (filter.showsWithin event.level) ||
    (filter.directiveFor event).any fun directive =>
      event.level.threshold.rank ≤ directive.threshold.rank

end Filter

end NicFlow.Log
