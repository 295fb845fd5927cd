import Mathlib.Data.List.Basic
import SocketDocs.Document.Validation
import SocketDocs.Proofs.Decimal.Text

/-!
# Texts of problems

The text of a problem is where it is, endpoint and exchange by number, and what is wrong there. Both
can be read off the text again, so different problems have different texts (`message_injective`).
-/

namespace SocketDocs.Problem

def endpoint? : Problem → Option Nat
  | .noTitle => none
  | .noVersion => none
  | .noEndpoints => none
  | .unnamedEndpoint i => some i
  | .repeatedName i _ => some i
  | .noUrl i => some i
  | .untypedExchange i _ => some i
  | .emptyExchange i _ => some i
  | .untypedMessage i _ _ => some i
  | .wrongDirection i _ _ => some i

def exchange? : Problem → Option Nat
  | .untypedExchange _ j => some j
  | .emptyExchange _ j => some j
  | .untypedMessage _ j _ => some j
  | .wrongDirection _ j _ => some j
  | _ => none

/-- What the text of a problem says after its position. -/
def complaint : Problem → String
  | .noTitle => "info.title is required"
  | .noVersion => "info.version is required"
  | .noEndpoints => "at least one WebSocket endpoint is required"
  | .unnamedEndpoint _ => ".name is required"
  | .repeatedName _ name => ".name `" ++ name ++ "` is already used by another endpoint"
  | .noUrl _ => ".url is required"
  | .untypedExchange _ _ => ".type is required"
  | .emptyExchange _ _ => " must have a send or a receive message"
  | .untypedMessage _ _ slot => "." ++ slot.name ++ ".type is required"
  | .wrongDirection _ _ slot => "." ++ slot.name ++ ".direction does not match its slot"

def located (opening : String) (place? : Option Nat) (text : String) : String :=
  match place? with
  | some n => opening ++ toString n ++ "]" ++ text
  | none => text

def afterEndpoint (p : Problem) : String :=
  located ".messages[" p.exchange? p.complaint

theorem message_eq (p : Problem) : p.message = located "sockets[" p.endpoint? p.afterEndpoint := by
  cases p <;> simp only [message, endpoint?, afterEndpoint, exchange?, complaint, located,
    messagePath, exchangePath, endpointPath, String.append_assoc, -String.reduceAppend]

-- ---------------------------------------------------------------------------
-- Positions
-- ---------------------------------------------------------------------------

theorem numbered_inj {opening s t : String} {m n : Nat}
    (h : opening ++ toString m ++ "]" ++ s = opening ++ toString n ++ "]" ++ t) : m = n ∧ s = t := by
  have hcut : ∀ (k : Nat) (rest : String),
      ((toString k).toList ++ ("]".toList ++ rest.toList)).takeWhile Decimal.isDigit =
          Nat.toDigits 10 k ∧
        ((toString k).toList ++ ("]".toList ++ rest.toList)).dropWhile Decimal.isDigit =
          ']' :: rest.toList := by
    intro k rest
    rw [show (toString k).toList = Nat.toDigits 10 k from Nat.toList_repr]
    refine Decimal.takeWhile_digits (fun c => Decimal.isDigit_of_mem_toDigits) ?_
    rintro c ⟨⟩
    rfl
  have hlists := congrArg String.toList h
  simp only [String.toList_append, List.append_assoc] at hlists
  replace hlists := List.append_cancel_left hlists
  have hnumber : Nat.toDigits 10 m = Nat.toDigits 10 n := by
    rw [← (hcut m s).1, ← (hcut n t).1, hlists]
  have hrest : ']' :: s.toList = ']' :: t.toList := by
    rw [← (hcut m s).2, ← (hcut n t).2, hlists]
  have hnat := congrArg Decimal.nat? hnumber
  rw [Decimal.nat?_toDigits, Decimal.nat?_toDigits] at hnat
  exact ⟨Option.some.inj hnat, String.toList_inj.mp (List.cons.inj hrest).2⟩

theorem located_inj {opening s t : String} {a? b? : Option Nat} (hplaced : a? ≠ none ↔ b? ≠ none)
    (h : located opening a? s = located opening b? t) : a? = b? ∧ s = t := by
  cases a? with
  | none =>
    obtain rfl : b? = none := by simpa using hplaced
    exact ⟨rfl, h⟩
  | some m =>
    obtain ⟨n, rfl⟩ := Option.ne_none_iff_exists'.mp (hplaced.mp (Option.some_ne_none m))
    obtain ⟨rfl, hrest⟩ := numbered_inj h
    exact ⟨rfl, hrest⟩

theorem head?_message (p : Problem) : p.message.toList.head? = some 's' ↔ p.endpoint? ≠ none := by
  cases p <;> simp [message, endpoint?, messagePath, exchangePath, endpointPath]

theorem second_afterEndpoint (p : Problem) :
    p.afterEndpoint.toList[1]? = some 'm' ↔ p.exchange? ≠ none := by
  cases p <;> simp [afterEndpoint, exchange?, complaint, located]

/-- The same text stands for the same position and complaint. -/
theorem parts_of_message_eq {p q : Problem} (h : p.message = q.message) :
    p.endpoint? = q.endpoint? ∧ p.exchange? = q.exchange? ∧ p.complaint = q.complaint := by
  have hendpoint : p.endpoint? ≠ none ↔ q.endpoint? ≠ none := by
    rw [← head?_message, ← head?_message, h]
  rw [message_eq, message_eq] at h
  obtain ⟨hi, hafter⟩ := located_inj hendpoint h
  have hexchange : p.exchange? ≠ none ↔ q.exchange? ≠ none := by
    rw [← second_afterEndpoint, ← second_afterEndpoint, hafter]
  exact ⟨hi, located_inj hexchange hafter⟩

-- ---------------------------------------------------------------------------
-- Complaints
-- ---------------------------------------------------------------------------

theorem eq_repeatedName {i : Nat} {name : String} {p : Problem} (hi : p.endpoint? = some i)
    (hj : p.exchange? = none) (h : p.complaint = (repeatedName i name).complaint) :
    p = .repeatedName i name := by
  have hquote : p.complaint.toList[6]? = some '`' := by
    rw [h]
    simp [complaint]
  cases p with
  | unnamedEndpoint k => simp [complaint] at hquote
  | noUrl k => simp [complaint] at hquote
  | repeatedName k other =>
    cases hi
    have hname : other = name := by simpa [complaint] using h
    rw [hname]
  | noTitle => cases hi
  | noVersion => cases hi
  | noEndpoints => cases hi
  | untypedExchange k j => cases hj
  | emptyExchange k j => cases hj
  | untypedMessage k j slot => cases hj
  | wrongDirection k j slot => cases hj

theorem eq_of_complaint_eq {p q : Problem} (hi : p.endpoint? = q.endpoint?)
    (hj : p.exchange? = q.exchange?) (h : p.complaint = q.complaint) : p = q := by
  by_cases hp : ∃ i name, p = .repeatedName i name
  · obtain ⟨i, name, rfl⟩ := hp
    exact (eq_repeatedName hi.symm hj.symm h.symm).symm
  by_cases hq : ∃ i name, q = .repeatedName i name
  · obtain ⟨i, name, rfl⟩ := hq
    exact eq_repeatedName hi hj h
  -- All other complaints are fixed texts, which differ at any one position.
  rcases p with _ | _ | _ | _ | _ | _ | _ | _ | ⟨_, _, _ | _⟩ | ⟨_, _, _ | _⟩ <;>
    rcases q with _ | _ | _ | _ | _ | _ | _ | _ | ⟨_, _, _ | _⟩ | ⟨_, _, _ | _⟩ <;>
    cases hi <;> cases hj <;> simp_all [complaint, Direction.name]

theorem message_injective : Function.Injective message := by
  intro p q h
  obtain ⟨hi, hj, hcomplaint⟩ := parts_of_message_eq h
  exact eq_of_complaint_eq hi hj hcomplaint

end SocketDocs.Problem
