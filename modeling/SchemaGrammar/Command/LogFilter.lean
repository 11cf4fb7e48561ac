import SchemaGrammar.Command.Event
import SchemaGrammar.Text.Alphanumeric
import SchemaGrammar.Text.Digits
import SchemaGrammar.Text.Parts

/-!
# Log filters

Which events are logged. A filter is a list of directives, written with commas between them. A
directive says up to which level events are logged (`Directive.threshold`) and which events it
concerns: those of the parts of the program whose names begin with its target, and among them those
that meet what it demands in brackets. Of the directives that concern an event the most specific one
decides (`LogFilter.decisive?`), whether it stands before or after the others; of equally specific
ones the last. An event that no directive concerns is not logged.
-/

namespace SchemaGrammar

/-! ## Thresholds -/

/-- The threshold with the given number: none for zero, by which nothing is logged, and the level of
that rank for the others. -/
def thresholdOfRank? : Nat → Option (Option Level)
  | 0 => some none
  | 1 => some (some .error)
  | 2 => some (some .warn)
  | 3 => some (some .info)
  | 4 => some (some .debug)
  | 5 => some (some .trace)
  | _ => none

/-- The threshold with the given name, in letters of either case. -/
def thresholdOfName? (name : String) : Option (Option Level) :=
  match name.toLower with
  | "off" => some none
  | "error" => some (some .error)
  | "warn" => some (some .warn)
  | "info" => some (some .info)
  | "debug" => some (some .debug)
  | "trace" => some (some .trace)
  | _ => none

/-- The number that decimal digits spell after an optional plus sign. -/
def rankWord? : List Char → Option Nat
  | '+' :: digits => Text.digitsIn? 10 digits
  | digits => Text.digitsIn? 10 digits

/-- The threshold that a word stands for, by number or by name. -/
def threshold? (word : List Char) : Option (Option Level) :=
  ((rankWord? word).bind thresholdOfRank?).or (thresholdOfName? (String.ofList word))

/-! ## Directives -/

/-- What a directive demands of an event beside its target. -/
inductive Demand where
  | nothing
  /-- The event carries a value of the given name. -/
  | field (name : String)
  /-- The event stands inside a span with a given name or with a given value. No event of this
  program stands inside a span. -/
  | span

/-- One directive of a filter. -/
structure Directive where
  /-- What the name of a part has to begin with; none for every part. -/
  target : Option String
  demand : Demand
  /-- The last level that is logged; none if nothing is. -/
  threshold : Option Level

namespace Directive

/-- Whether a directive concerns an event. -/
def concerns (d : Directive) (e : Event) : Bool :=
  (match d.target with
    | none => true
    | some target => target.toList.isPrefixOf e.target.toList) &&
  match d.demand with
  | .nothing => true
  | .field name => e.fieldNames.contains name
  | .span => false

/-- How specific a target is: the longer the more, and least if there is none. -/
def targetRank (d : Directive) : Nat :=
  match d.target with
  | none => 0
  | some target => target.length + 1

/-- Whether the first directive decides before the second on an event that concerns both: it has the
longer target or, with equal ones, demands a value where the other does not. Of two values the one
whose name is greater counts for more. -/
def outranks (d other : Directive) : Bool :=
  if d.targetRank = other.targetRank then
    match d.demand, other.demand with
    | .field _, .nothing => true
    | .field name, .field less => decide (less < name)
    | _, _ => false
  else decide (other.targetRank < d.targetRank)

end Directive

/-! ## Written directives -/

/-- A directive as it is written: a word, a demand in brackets and what stands after an equals sign.
The word may be empty before a bracket only. -/
structure WrittenDirective where
  word : List Char
  demand : Option Demand
  threshold : Option (List Char)

namespace WrittenDirective

/-- White space. -/
def isSpace (c : Char) : Bool :=
  let n := c.toNat
  (0x09 ≤ n && n ≤ 0x0D) || n == 0x20 || n == 0x85 || n == 0xA0 || n == 0x1680 ||
    (0x2000 ≤ n && n ≤ 0x200A) || n == 0x2028 || n == 0x2029 || n == 0x202F || n == 0x205F ||
    n == 0x3000

/-- What the text of a field demands, inside a span of the given name. A field with a value concerns
spans only, as does whatever stands inside a named span. -/
def fieldDemand (span field : List Char) : Option Demand :=
  if field.isEmpty then none
  else if span.isEmpty && !field.contains '=' then some (.field (String.ofList field))
  else some .span

/-- A demand after its opening bracket, and what follows its closing one. -/
def readDemand (cs : List Char) : Option (Demand × List Char) :=
  let inName (c : Char) := c != ']' && c != '\x7b'
  match cs.dropWhile inName with
  | ']' :: rest => some (.span, rest)
  | '\x7b' :: rest =>
    match rest.dropWhile (· != '\x7d') with
    | '\x7d' :: ']' :: after =>
      (fieldDemand (cs.takeWhile inName) (rest.takeWhile (· != '\x7d'))).map (·, after)
    | _ => none
  | _ => none

/-- A directive from its bracket on, after the given word. White space after the closing bracket is
passed over if it ends the text. -/
def readFromBracket (word cs : List Char) : Option WrittenDirective := do
  let (demand, rest) ← readDemand cs
  match rest with
  | '=' :: threshold => some ⟨word, demand, some threshold⟩
  | rest => if rest.all isSpace then some ⟨word, demand, none⟩ else none

/-- The characters that a word may begin with: letters, numbers and the marks of names. -/
def beginsWord (c : Char) : Bool :=
  Text.isAlphanumeric c || c == '-' || c == ':' || c == '_'

/-- The directive that stands in a text without white space in front. -/
def read : List Char → Option WrittenDirective
  | [] => none
  | '[' :: rest => readFromBracket [] rest
  | c :: cs =>
    if beginsWord c then
      let inWord (c : Char) := c != '=' && c != '['
      let word := (c :: cs).takeWhile inWord
      match (c :: cs).dropWhile inWord with
      | '=' :: threshold => some ⟨word, none, some threshold⟩
      | '[' :: rest => readFromBracket word rest
      | _ => some ⟨word, none, none⟩
    else none

/-- What a written directive says. A word alone is a threshold if it can be one and a target
otherwise. Where no threshold is written everything is logged. -/
def directive? (w : WrittenDirective) : Option Directive :=
  let target := if w.word.isEmpty then none else some (String.ofList w.word)
  let demand := w.demand.getD .nothing
  match w.threshold with
  | some [] => some ⟨target, demand, some .trace⟩
  | some word => (threshold? word).map (⟨target, demand, ·⟩)
  | none =>
    match if w.demand.isNone then threshold? w.word else none with
    | some threshold => some ⟨none, .nothing, threshold⟩
    | none => some ⟨target, demand, some .trace⟩

end WrittenDirective

/-- The directive that a text spells. White space in front is no part of its form but belongs to its
words: no threshold can be read then, and no part's name begins with such a target. -/
def Directive.ofText? (cs : List Char) : Option Directive := do
  let written ← WrittenDirective.read (cs.dropWhile WrittenDirective.isSpace)
  if cs.head?.any WrittenDirective.isSpace then
    if written.threshold.isSome then none
    else some ⟨some (String.ofList cs), .nothing, some .trace⟩
  else written.directive?

/-! ## Filters -/

/-- A filter: its directives in the order in which they are written. -/
structure LogFilter where
  directives : List Directive

namespace LogFilter

/-- Everything up to a level. -/
def upTo (level : Level) : LogFilter := ⟨[⟨none, .nothing, some level⟩]⟩

/-- The directive that decides on an event. -/
def decisive? (f : LogFilter) (e : Event) : Option Directive :=
  (f.directives.filter (·.concerns e)).foldl
    (fun best d =>
      match best with
      | some b => if b.outranks d then some b else some d
      | none => some d)
    none

/-- Whether the event is logged. -/
def admits (f : LogFilter) (e : Event) : Bool :=
  match (f.decisive? e).bind (·.threshold) with
  | some level => e.level.rank ≤ level.rank
  | none => false

/-- The filter that a text spells, if all its directives can be read. Nothing between two commas is
no directive. -/
def ofText? (text : String) : Option LogFilter :=
  (((Text.parts ',' text.toList).filter (!·.isEmpty)).mapM Directive.ofText?).map (⟨·⟩)

/-- The filter in force: what the environment asks for if it can be read, else what the command line
does. -/
def choose (environment : Option String) (verbose : Bool) : LogFilter :=
  (environment.bind ofText?).getD (upTo (if verbose then .debug else .warn))

end LogFilter

end SchemaGrammar
