import SocketDocs.Json.Value

/-!
# The parts of a value

Induction over a value by the values directly inside it, and what a value holds at any depth: its
strings, the keys of its objects and its numbers.
-/

namespace SocketDocs.Json.Value

def children : Value → List Value
  | .array items => items
  | .object members => members.map (·.2)
  | _ => []

mutual
theorem inductionOn {P : Value → Prop} (h : ∀ v : Value, (∀ w ∈ v.children, P w) → P v) :
    ∀ v : Value, P v
  | .null => h _ (by simp [children])
  | .bool _ => h _ (by simp [children])
  | .number _ => h _ (by simp [children])
  | .string _ => h _ (by simp [children])
  | .array items => h _ (inductionItems h items)
  | .object members => h _ fun w hw => by
    obtain ⟨m, hm, heq⟩ := List.mem_map.mp hw
    exact heq ▸ inductionMembers h members m hm

theorem inductionItems {P : Value → Prop} (h : ∀ v : Value, (∀ w ∈ v.children, P w) → P v) :
    ∀ items : List Value, ∀ v ∈ items, P v
  | [], _, hv => by cases hv
  | item :: rest, v, hv => by
    rcases List.mem_cons.mp hv with heq | hv
    · exact heq ▸ inductionOn h item
    · exact inductionItems h rest v hv

theorem inductionMembers {P : Value → Prop} (h : ∀ v : Value, (∀ w ∈ v.children, P w) → P v) :
    ∀ members : List (String × Value), ∀ m ∈ members, P m.2
  | [], _, hm => by cases hm
  | (_, value) :: rest, m, hm => by
    rcases List.mem_cons.mp hm with heq | hm
    · exact heq ▸ inductionOn h value
    · exact inductionMembers h rest m hm
end

-- ---------------------------------------------------------------------------
-- Collecting
-- ---------------------------------------------------------------------------

section

variable {α : Type} (here : Value → List α)

mutual
/-- What is found at a value and at all values inside it, in their order. -/
def collect : Value → List α
  | .array items => here (.array items) ++ collectItems items
  | .object members => here (.object members) ++ collectMembers members
  | v => here v

def collectItems : List Value → List α
  | [] => []
  | item :: rest => item.collect ++ collectItems rest

def collectMembers : List (String × Value) → List α
  | [] => []
  | (_, value) :: rest => value.collect ++ collectMembers rest
end

theorem collectItems_eq (items : List Value) : collectItems here items = items.flatMap (collect here) := by
  induction items with
  | nil => rfl
  | cons item rest ih => rw [collectItems, ih, List.flatMap_cons]

theorem collectMembers_eq (members : List (String × Value)) :
    collectMembers here members = members.flatMap (collect here ·.2) := by
  induction members with
  | nil => rfl
  | cons member rest ih =>
    obtain ⟨key, value⟩ := member
    rw [collectMembers, ih, List.flatMap_cons]

theorem collect_eq (v : Value) : v.collect here = here v ++ v.children.flatMap (collect here) := by
  cases v with
  | array items => rw [collect, collectItems_eq, children]
  | object members => rw [collect, collectMembers_eq, children, List.flatMap_map]
  | _ => simp [collect, children]

end

def texts : Value → List String :=
  collect fun
    | .string s => [s]
    | _ => []

def numbers : Value → List Number :=
  collect fun
    | .number n => [n]
    | _ => []

def keys : Value → List String :=
  collect fun
    | .object members => members.map (·.1)
    | _ => []

section

variable {items : List Value} {members : List (String × Value)}

@[simp] theorem texts_string {s : String} : (Value.string s).texts = [s] := rfl

@[simp] theorem texts_array : (Value.array items).texts = items.flatMap texts :=
  collect_eq ..

@[simp] theorem texts_object : (Value.object members).texts = members.flatMap (·.2.texts) := by
  rw [texts, collect_eq, children, List.flatMap_map]
  rfl

@[simp] theorem numbers_null : Value.null.numbers = [] := rfl

@[simp] theorem numbers_bool {b : Bool} : (Value.bool b).numbers = [] := rfl

@[simp] theorem numbers_string {s : String} : (Value.string s).numbers = [] := rfl

@[simp] theorem numbers_number {n : Number} : (Value.number n).numbers = [n] := rfl

@[simp] theorem numbers_array : (Value.array items).numbers = items.flatMap numbers :=
  collect_eq ..

@[simp] theorem numbers_object :
    (Value.object members).numbers = members.flatMap (·.2.numbers) := by
  rw [numbers, collect_eq, children, List.flatMap_map]
  rfl

@[simp] theorem keys_array : (Value.array items).keys = items.flatMap keys :=
  collect_eq ..

@[simp] theorem keys_object :
    (Value.object members).keys = members.map (·.1) ++ members.flatMap (·.2.keys) := by
  rw [keys, collect_eq, children, List.flatMap_map]

end

-- ---------------------------------------------------------------------------
-- Depth
-- ---------------------------------------------------------------------------

mutual
def depth : Value → Nat
  | .array items => depthOfItems items + 1
  | .object members => depthOfMembers members + 1
  | _ => 0

def depthOfItems : List Value → Nat
  | [] => 0
  | item :: rest => max item.depth (depthOfItems rest)

def depthOfMembers : List (String × Value) → Nat
  | [] => 0
  | (_, value) :: rest => max value.depth (depthOfMembers rest)
end

theorem depthOfItems_le_iff {items : List Value} {n : Nat} :
    depthOfItems items ≤ n ↔ ∀ item ∈ items, item.depth ≤ n := by
  induction items with
  | nil => simp [depthOfItems]
  | cons item rest ih => rw [depthOfItems, Nat.max_le, ih, List.forall_mem_cons]

theorem depthOfMembers_le_iff {members : List (String × Value)} {n : Nat} :
    depthOfMembers members ≤ n ↔ ∀ m ∈ members, m.2.depth ≤ n := by
  induction members with
  | nil => simp [depthOfMembers]
  | cons member rest ih =>
    obtain ⟨key, value⟩ := member
    rw [depthOfMembers, Nat.max_le, ih, List.forall_mem_cons]

@[simp] theorem depth_array_le {items : List Value} {n : Nat} :
    (Value.array items).depth ≤ n ↔ 0 < n ∧ ∀ item ∈ items, item.depth ≤ n - 1 := by
  rw [depth, ← depthOfItems_le_iff]
  omega

@[simp] theorem depth_object_le {members : List (String × Value)} {n : Nat} :
    (Value.object members).depth ≤ n ↔ 0 < n ∧ ∀ m ∈ members, m.2.depth ≤ n - 1 := by
  rw [depth, ← depthOfMembers_le_iff]
  omega

end SocketDocs.Json.Value
