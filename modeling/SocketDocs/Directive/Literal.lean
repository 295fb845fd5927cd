import SocketDocs.Decimal.Reader
import SocketDocs.Json.Reader

/-!
# Sample literals

The value that a comment gives as a sample: an integer, a decimal number, a JSON object or array,
and otherwise the text itself. One pair of quotes around the text is taken off first.
-/

namespace SocketDocs.Literal

open Json (Value)

def unquoted (cs : List Char) : List Char :=
  match cs with
  | '"' :: rest => if rest.getLast? == some '"' then rest.dropLast else cs
  | _ => cs

def isBracketed (cs : List Char) : Bool :=
  (cs.head? == some '\x7b' && cs.getLast? == some '\x7d') ||
    (cs.head? == some '[' && cs.getLast? == some ']')

theorem exists_cons_of_isBracketed {cs : List Char} (h : isBracketed cs = true) :
    ∃ c rest, cs = c :: rest ∧ (c = '\x7b' ∨ c = '[') := by
  simp only [isBracketed, Bool.or_eq_true, Bool.and_eq_true, beq_iff_eq] at h
  rcases h with ⟨hhead, -⟩ | ⟨hhead, -⟩ <;> obtain ⟨rest, rfl⟩ := List.head?_eq_some_iff.mp hhead
  · exact ⟨_, rest, rfl, .inl rfl⟩
  · exact ⟨_, rest, rfl, .inr rfl⟩

def valueOfChars (cs : List Char) : Value :=
  match Decimal.int64? cs with
  | some n => .number (.int n)
  | none =>
    match Decimal.double? cs with
    | some x => .number (.double x)
    | none =>
      if isBracketed cs then (Json.parseChars? cs).getD (.string (String.ofList cs))
      else .string (String.ofList cs)

def value (text : String) : Value :=
  valueOfChars (unquoted text.toList)

end SocketDocs.Literal
