import Mathlib.Algebra.Group.Nat.Defs
import SocketIox.Wire.Text

/-! # JSON values and the serializer

Values are those of the JSON crate: integers of 64 bits, finite floats given by
their bits, and objects as association lists in key order. Serializer and parser
are parameters. `Faithful` is what the results need of them at one value: the
parser undoes the serializer there, and the text starts as the JSON grammar says.
-/
namespace SocketIox.SocketIo
open Wire

structure FiniteFloat where
  bits : UInt64
  finite : bits.toNat/2^52%2^11 ≠ 2^11-1
  deriving DecidableEq, Repr

/-- `negInt k` is the integer `-1-k`. -/
inductive Number where
  | posInt (n : UInt64)
  | negInt (k : Fin (2^63))
  | float (f : FiniteFloat)
  deriving DecidableEq, Repr

def Number.isNegative : Number → Bool
  | .posInt _ => false
  | .negInt _ => true
  | .float f => decide (2^63 ≤ f.bits.toNat)

inductive Value where
  | null
  | bool (b : Bool)
  | number (n : Number)
  | string (s : String)
  | array (vec : List Value)
  | object (map : List (String × Value))
  deriving Repr

def Value.get (key : String) : Value → Option Value
  | .object map => map.lookup key
  | _ => none

def Value.asU64 : Value → Option UInt64
  | .number (.posInt n) => some n
  | _ => none

/-- The first character of the text of a value. -/
def Value.Leads (c : Char) : Value → Prop
  | .null => c = 'n'
  | .bool b => c = if b then 't' else 'f'
  | .number n => if n.isNegative then c = '-' else c.isDigit = true
  | .string _ => c = '\x22'
  | .array _ => c = '['
  | .object _ => c = '\x7b'

def Value.IsNonnegative : Value → Prop
  | .number n => n.isNegative = false
  | _ => False

/-- `serde_json::to_string` and `serde_json::from_str`; an error is its text. -/
structure SerdeJson where
  toString : Value → String
  fromStr : String → Except String Value

structure SerdeJson.Faithful (json : SerdeJson) (v : Value) : Prop where
  undo : json.fromStr (json.toString v) = .ok v
  leads : ∃ c rest, (json.toString v).toList = c :: rest ∧ v.Leads c

def isBlank (c : Char) : Bool := c = ' ' || c = '\n' || c = '\t' || c = '\r'

/-- What the JSON grammar says of the parser and of numbers: a document starts,
after blanks, as its value does, and there is no blank inside of a number. -/
structure SerdeJson.Grammatical (json : SerdeJson) : Prop where
  starts : ∀ text v, json.fromStr text = .ok v → ∃ c rest, text.toList.dropWhile isBlank = c :: rest ∧ v.Leads c
  noBlank : ∀ n, ∀ c ∈ (json.toString (.number n)).toList, isBlank c = false

theorem Value.Leads.separates {v : Value} {c : Char} (h : v.Leads c) (hv : ¬ v.IsNonnegative) :
    c.isDigit = false ∧ c ≠ '/' := by
  cases v with
  | null => cases h; decide
  | bool b => cases b <;> cases h <;> decide
  | number n =>
    have hn : n.isNegative = true := by simpa [IsNonnegative] using hv
    simp only [Leads,hn,↓reduceIte] at h
    subst h
    decide
  | string s => cases h; decide
  | array vec => cases h; decide
  | object map => cases h; decide

def leafText : Value → String
  | .null => "null"
  | .bool b => if b then "true" else "false"
  | .number (.posInt n) => String.ofList (digits n.toNat)
  | .number (.negInt k) => "-" ++ String.ofList (digits (k.val+1))
  | .number (.float _) => "-0.0"
  | .string s => "\"" ++ s ++ "\""
  | .array _ => "[]"
  | .object _ => "\x7b\x7d"

def flatText : Value → String
  | .object map =>
    "\x7b" ++ ",".intercalate (map.map (fun m => "\"" ++ m.1 ++ "\":" ++ leafText m.2)) ++ "\x7d"
  | v => leafText v

/-- The compact text of an array of integers, plain strings and flat objects. -/
def sampleText : Value → String
  | .array vec => "[" ++ ",".intercalate (vec.map flatText) ++ "]"
  | v => flatText v

def sampleJson (values : List Value) : SerdeJson where
  toString := sampleText
  fromStr text := match values.find? (fun v => sampleText v = text) with
    | some v => .ok v
    | none => .error "expected value"

theorem sampleJson_faithful (vec : List Value) : (sampleJson [.array vec]).Faithful (.array vec) where
  undo := by simp [sampleJson]
  leads := by
    refine ⟨'[',(",".intercalate (vec.map flatText) ++ "]").toList,?_,rfl⟩
    simp [sampleJson,sampleText,String.append_assoc]

theorem not_isBlank_of_isDigit {c : Char} (h : c.isDigit = true) : isBlank c = false := by
  by_contra hb
  simp only [isBlank,Bool.not_eq_false,Bool.or_eq_true,decide_eq_true_eq] at hb
  rcases hb with ((rfl | rfl) | rfl) | rfl <;> exact absurd h (by decide)

theorem sampleJson_grammatical (vec : List Value) : (sampleJson [.array vec]).Grammatical where
  starts text v h := by
    obtain ⟨c,rest,htext,hlead⟩ := (sampleJson_faithful vec).leads
    have hfind : sampleText (.array vec) = text ∧ v = .array vec := by
      by_cases hs : sampleText (.array vec) = text
      · simp only [sampleJson,List.find?_singleton,hs,decide_true,↓reduceIte,Except.ok.injEq] at h
        exact ⟨hs,h.symm⟩
      · simp [sampleJson,hs] at h
    obtain ⟨rfl,rfl⟩ := hfind
    refine ⟨c,rest,?_,hlead⟩
    have hc : isBlank c = false := by cases hlead; decide
    have hl : (sampleText (.array vec)).toList = c :: rest := htext
    rw [hl,List.dropWhile_cons_of_neg (by simp [hc])]
  noBlank n c hc := by
    cases n with
    | posInt n =>
      simp only [sampleJson,sampleText,flatText,leafText,String.toList_ofList] at hc
      exact not_isBlank_of_isDigit (digits_isDigit hc)
    | negInt k =>
      simp only [sampleJson,sampleText,flatText,leafText,String.toList_append,String.toList_ofList,
        List.mem_append] at hc
      rcases hc with hc | hc
      · simpa using List.all_eq_true.mp (by decide : "-".toList.all (fun c => !isBlank c) = true) c hc
      · exact not_isBlank_of_isDigit (digits_isDigit hc)
    | float f => simpa using List.all_eq_true.mp (by decide : "-0.0".toList.all (fun c => !isBlank c) = true) c hc

end SocketIox.SocketIo
