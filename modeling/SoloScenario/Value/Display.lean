import SoloScenario.Number.Shortest
import SoloScenario.Text.Quoted
import SoloScenario.Value.Basic

/-! Values as text. The literal of a value shows what kind it is of; its display
is the same but for text, which displays as itself, and for dates and stamps,
which display in standard form. A whole number of too many digits has no text, and
neither has what holds one. -/

namespace SoloScenario.Value

open Text

variable {T : Type} [TextLike T]

/-- Literals in a row between two brackets. -/
def enclose (first last : String) (items : List String) : String :=
  first ++ ", ".intercalate items ++ last

/-- Literals in a row between parentheses. A single one keeps a comma, which tells it from a
literal in parentheses. -/
def encloseTuple : List String → String
  | [s] => "(" ++ s ++ ",)"
  | items => enclose "(" ")" items

def zoneLiteral (z : Time.Zone) : String :=
  match z.offset, z.name with
  | 0, none => "datetime.timezone.utc"
  | n, none => s!"datetime.timezone({Time.offsetLength n})"
  | n, some name => s!"datetime.timezone({Time.offsetLength n}, {quoted name})"

def dateLiteral (d : Time.Date) : String :=
  s!"datetime.date({d.year}, {d.month}, {d.day})"

/-- A stamp as a call that builds it. Seconds and microseconds of zero are left out at the end. -/
def stampLiteral (t : Time.Stamp) : String :=
  let fraction := if t.microsecond = 0 then [] else [t.microsecond]
  let seconds := if t.second = 0 && t.microsecond = 0 then [] else t.second :: fraction
  let parts := [t.date.year, t.date.month, t.date.day, t.hour, t.minute] ++ seconds
  let zone := match t.zone with
    | none => []
    | some z => ["tzinfo=" ++ zoneLiteral z]
  enclose "datetime.datetime(" ")" (parts.map toString ++ zone)

def intText (n : Int) : String := String.ofList ((if n < 0 then ['-'] else []) ++ decimal n.natAbs)

def boolText (b : Bool) : String := if b then "True" else "False"

/-- What stands for a container inside itself. -/
def againText : Shape → String
  | .list => "[...]"
  | .map => "\x7b...\x7d"

mutual

/-- The literal of a value. -/
def literal : Value T → String
  | .null => "None"
  | .bool b => boolText b
  | .int n => intText n
  | .float x => String.ofList (x.write Binary64.display)
  | .text s => TextLike.quoted s
  | .bytes bs => String.ofList (Quoted.encodeBytes bs)
  | .date d => dateLiteral d
  | .stamp t => stampLiteral t
  | .list items => enclose "[" "]" (literals items)
  | .tuple items => encloseTuple (literals items)
  | .set items => if items.isEmpty then "set()" else enclose "\x7b" "\x7d" (literals items)
  | .map entries => enclose "\x7b" "\x7d" (entryLiterals entries)
  | .again shape => againText shape

def literals : List (Value T) → List String
  | [] => []
  | v :: rest => literal v :: literals rest

/-- Entries of a mapping, each a key and a value with a colon between them. -/
def entryLiterals : List (Value T × Value T) → List String
  | [] => []
  | (k, v) :: rest => (literal k ++ ": " ++ literal v) :: entryLiterals rest

end

def display : Value T → T
  | .text s => s
  | .date d => TextLike.ofString (String.ofList d.iso)
  | .stamp t => TextLike.ofString (String.ofList (t.standard ' '))
  | v => TextLike.ofString v.literal

/-! ### Values that have a text -/

mutual

/-- Whether a value can be displayed: every whole number in it has few enough digits. -/
def hasText : Value T → Bool
  | .int n => isShort n
  | .list items | .tuple items | .set items => allHaveText items
  | .map entries => entriesHaveText entries
  | _ => true

def allHaveText : List (Value T) → Bool
  | [] => true
  | v :: rest => hasText v && allHaveText rest

def entriesHaveText : List (Value T × Value T) → Bool
  | [] => true
  | (k, v) :: rest => hasText k && hasText v && entriesHaveText rest

end

omit [TextLike T] in
theorem allHaveText_iff {vs : List (Value T)} :
    allHaveText vs = true ↔ ∀ v ∈ vs, v.hasText = true := by
  induction vs with
  | nil => simp [allHaveText]
  | cons v rest ih => simp [allHaveText, ih]

omit [TextLike T] in
theorem entriesHaveText_iff {entries : List (Value T × Value T)} :
    entriesHaveText entries = true ↔
      ∀ e ∈ entries, e.1.hasText = true ∧ e.2.hasText = true := by
  induction entries with
  | nil => simp [entriesHaveText]
  | cons e rest ih => simp [entriesHaveText, ih, and_assoc]

example : literal (Value.list [.text "a", .tuple [.int 1], .map [(.null, .bool true)]]) =
    "['a', (1,), \x7bNone: True\x7d]" := by decide +kernel

end SoloScenario.Value
