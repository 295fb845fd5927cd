import Mathlib.Data.Finset.Insert
import SocketDocs.Proofs.Document.ProblemTexts

/-!
# What the check of documents reports

A problem is reported exactly if the element at its position has it (`Problem.mem_problems`), and it
is reported once. Endpoint names are compared with those of all endpoints before; one pass that keeps
the set of names met so far does the same (`Problem.ofEndpoints_eq_onePass`). So the check decides
which documents are valid (`Document.problems_exact`).
-/

namespace SocketDocs

-- ---------------------------------------------------------------------------
-- Validity
-- ---------------------------------------------------------------------------

structure Message.ValidIn (message : Message) (slot : Direction) : Prop where
  typed : message.messageType ≠ ""
  directed : message.direction = slot

structure Exchange.Valid (exchange : Exchange) : Prop where
  typed : exchange.messageType ≠ ""
  filled : exchange.send ≠ none ∨ exchange.receive ≠ none
  send : ∀ message ∈ exchange.send, message.ValidIn .send
  receive : ∀ message ∈ exchange.receive, message.ValidIn .receive

structure Document.Valid (document : Document) : Prop where
  titled : document.info.title ≠ ""
  versioned : document.info.version ≠ ""
  inhabited : document.endpoints ≠ []
  named : ∀ endpoint ∈ document.endpoints, endpoint.name ≠ ""
  distinct : (document.endpoints.map (·.name)).Nodup
  addressed : ∀ endpoint ∈ document.endpoints, endpoint.url ≠ ""
  exchanges : ∀ endpoint ∈ document.endpoints, ∀ exchange ∈ endpoint.exchanges, exchange.Valid

def Document.exchange? (document : Document) (i j : Nat) : Option Exchange :=
  document.endpoints[i]?.bind (·.exchanges[j]?)

def Exchange.slot? (exchange : Exchange) : Direction → Option Message
  | .send => exchange.send
  | .receive => exchange.receive

namespace Exchange

variable {exchange : Exchange}

theorem Valid.slot (h : exchange.Valid) {slot : Direction} {message : Message}
    (hmessage : message ∈ exchange.slot? slot) : message.ValidIn slot := by
  cases slot with
  | send => exact h.send message hmessage
  | receive => exact h.receive message hmessage

theorem valid_of_slots (htyped : exchange.messageType ≠ "")
    (hfilled : ¬(exchange.send = none ∧ exchange.receive = none))
    (hslots : ∀ slot, ∀ message ∈ exchange.slot? slot, message.ValidIn slot) : exchange.Valid where
  typed := htyped
  filled := not_and_or.mp hfilled
  send := hslots .send
  receive := hslots .receive

end Exchange

/-- The element at the position of a problem has it. -/
def Problem.Occurs (document : Document) : Problem → Prop
  | .noTitle => document.info.title = ""
  | .noVersion => document.info.version = ""
  | .noEndpoints => document.endpoints = []
  | .unnamedEndpoint i => ∃ endpoint ∈ document.endpoints[i]?, endpoint.name = ""
  | .repeatedName i name => name ≠ "" ∧ (∃ endpoint ∈ document.endpoints[i]?, endpoint.name = name) ∧
      ∃ k < i, ∃ earlier ∈ document.endpoints[k]?, earlier.name = name
  | .noUrl i => ∃ endpoint ∈ document.endpoints[i]?, endpoint.url = ""
  | .untypedExchange i j => ∃ exchange ∈ document.exchange? i j, exchange.messageType = ""
  | .emptyExchange i j =>
    ∃ exchange ∈ document.exchange? i j, exchange.send = none ∧ exchange.receive = none
  | .untypedMessage i j slot =>
    ∃ exchange ∈ document.exchange? i j, ∃ message ∈ exchange.slot? slot, message.messageType = ""
  | .wrongDirection i j slot =>
    ∃ exchange ∈ document.exchange? i j, ∃ message ∈ exchange.slot? slot, message.direction ≠ slot

namespace Problem

-- ---------------------------------------------------------------------------
-- Reported problems
-- ---------------------------------------------------------------------------

theorem mem_ofSlot {i j : Nat} {slot : Direction} {message? : Option Message} {p : Problem} :
    p ∈ ofSlot i j slot message? ↔ ∃ message ∈ message?,
      (message.messageType = "" ∧ p = .untypedMessage i j slot) ∨
        (message.direction ≠ slot ∧ p = .wrongDirection i j slot) := by
  cases message? with
  | none => simp [ofSlot]
  | some message => simp [ofSlot, mem_when]

theorem mem_ofExchange {i j : Nat} {exchange : Exchange} {p : Problem} :
    p ∈ ofExchange i j exchange ↔
      (exchange.messageType = "" ∧ p = .untypedExchange i j) ∨
      ((exchange.send = none ∧ exchange.receive = none) ∧ p = .emptyExchange i j) ∨
      ∃ slot, ∃ message ∈ exchange.slot? slot,
        (message.messageType = "" ∧ p = .untypedMessage i j slot) ∨
          (message.direction ≠ slot ∧ p = .wrongDirection i j slot) := by
  have hslots : (∃ slot, ∃ message ∈ exchange.slot? slot,
      (message.messageType = "" ∧ p = .untypedMessage i j slot) ∨
        (message.direction ≠ slot ∧ p = .wrongDirection i j slot)) ↔
      p ∈ ofSlot i j .send exchange.send ∨ p ∈ ofSlot i j .receive exchange.receive := by
    rw [mem_ofSlot, mem_ofSlot]
    constructor
    · rintro ⟨_ | _, h⟩
      · exact .inl h
      · exact .inr h
    · rintro (h | h)
      · exact ⟨.send, h⟩
      · exact ⟨.receive, h⟩
  rw [hslots]
  simp only [ofExchange, List.mem_append, mem_when, Bool.and_eq_true, Option.isNone_iff_eq_none,
    String.isEmpty_iff, or_assoc]

theorem mem_ofExchanges {i : Nat} {exchanges : List Exchange} {p : Problem} :
    p ∈ ofExchanges i exchanges ↔ ∃ j, ∃ exchange ∈ exchanges[j]?, p ∈ ofExchange i j exchange := by
  simp only [ofExchanges, List.mem_flatMap, Prod.exists, List.mk_mem_zipIdx_iff_getElem?]
  exact exists_comm

theorem mem_ofName {i : Nat} {before : List Endpoint} {name : String} {p : Problem} :
    p ∈ ofName i before name ↔
      (name = "" ∧ p = .unnamedEndpoint i) ∨
        ((name ≠ "" ∧ ∃ earlier ∈ before, earlier.name = name) ∧ p = .repeatedName i name) := by
  unfold ofName
  split
  · rename_i hempty
    simp [String.isEmpty_iff.mp hempty]
  · rename_i hname
    have hname : name ≠ "" := mt String.isEmpty_iff.mpr hname
    simp [mem_when, hname]

theorem mem_ofEndpoints {endpoints : List Endpoint} {p : Problem} :
    p ∈ ofEndpoints endpoints ↔ ∃ i, ∃ endpoint ∈ endpoints[i]?,
      p ∈ ofName i (endpoints.take i) endpoint.name ∨ (endpoint.url = "" ∧ p = .noUrl i) ∨
        p ∈ ofExchanges i endpoint.exchanges := by
  simp only [ofEndpoints, ofEndpoint, List.mem_flatMap, Prod.exists, List.mk_mem_zipIdx_iff_getElem?,
    List.mem_append, mem_when, String.isEmpty_iff, or_assoc]
  exact exists_comm

theorem exists_mem_take_iff {endpoints : List Endpoint} {i : Nat} {name : String} :
    (∃ earlier ∈ endpoints.take i, earlier.name = name) ↔
      ∃ k < i, ∃ earlier ∈ endpoints[k]?, earlier.name = name := by
  constructor
  · rintro ⟨earlier, hmem, hname⟩
    obtain ⟨k, hk⟩ := List.mem_iff_getElem?.mp hmem
    rw [List.getElem?_take, Option.ite_none_right_eq_some] at hk
    exact ⟨k, hk.1, earlier, hk.2, hname⟩
  · rintro ⟨k, hk, earlier, hearlier, hname⟩
    refine ⟨earlier, List.mem_iff_getElem?.mpr ⟨k, ?_⟩, hname⟩
    rw [List.getElem?_take, if_pos hk]
    exact hearlier

theorem exists_exchange?_iff {document : Document} {i j : Nat} {property : Exchange → Prop} :
    (∃ exchange ∈ document.exchange? i j, property exchange) ↔
      ∃ endpoint ∈ document.endpoints[i]?, ∃ exchange ∈ endpoint.exchanges[j]?, property exchange := by
  unfold Document.exchange?
  cases document.endpoints[i]? <;> simp

/-- The check reports the problems that a document has, at the elements that have them. -/
theorem mem_problems {document : Document} {p : Problem} :
    p ∈ document.problems ↔ p.Occurs document := by
  simp only [Document.problems, List.mem_append, mem_when, mem_ofEndpoints, mem_ofName,
    mem_ofExchanges, mem_ofExchange, String.isEmpty_iff, List.isEmpty_iff, exists_mem_take_iff]
  cases p with
  | noTitle => simp [Occurs]
  | noVersion => simp [Occurs]
  | noEndpoints => simp [Occurs]
  | unnamedEndpoint i => simp [Occurs]
  | repeatedName i name =>
    simp only [Occurs, reduceCtorEq, and_false, false_or, repeatedName.injEq, exists_false,
      or_false]
    constructor
    · rintro ⟨_, endpoint, hendpoint, ⟨hname, hbefore⟩, rfl, rfl⟩
      exact ⟨hname, ⟨endpoint, hendpoint, rfl⟩, hbefore⟩
    · rintro ⟨hname, ⟨endpoint, hendpoint, rfl⟩, hbefore⟩
      exact ⟨i, endpoint, hendpoint, ⟨hname, hbefore⟩, rfl, rfl⟩
  | noUrl i => simp [Occurs]
  | untypedExchange i j =>
    rw [Occurs, exists_exchange?_iff]
    simp
  | emptyExchange i j =>
    rw [Occurs, exists_exchange?_iff]
    simp
  | untypedMessage i j slot =>
    rw [Occurs, exists_exchange?_iff]
    simp
  | wrongDirection i j slot =>
    rw [Occurs, exists_exchange?_iff]
    simp

-- ---------------------------------------------------------------------------
-- Each problem once
-- ---------------------------------------------------------------------------

theorem when_sublist (condition : Bool) (problem : Problem) :
    (when condition problem).Sublist [problem] := by
  cases condition <;> simp [when]

theorem ofSlot_sublist (i j : Nat) (slot : Direction) (message? : Option Message) :
    (ofSlot i j slot message?).Sublist [.untypedMessage i j slot, .wrongDirection i j slot] := by
  cases message? with
  | none => exact List.nil_sublist _
  | some message => exact (when_sublist ..).append (when_sublist ..)

theorem nodup_ofExchange (i j : Nat) (exchange : Exchange) : (ofExchange i j exchange).Nodup := by
  have hsublist := (((when_sublist exchange.messageType.isEmpty (.untypedExchange i j)).append
    (when_sublist (exchange.send.isNone && exchange.receive.isNone) (.emptyExchange i j))).append
    (ofSlot_sublist i j .send exchange.send)).append (ofSlot_sublist i j .receive exchange.receive)
  exact hsublist.nodup (by simp)

theorem ofName_sublist (i : Nat) (before : List Endpoint) (name : String) :
    (ofName i before name).Sublist [.unnamedEndpoint i, .repeatedName i name] := by
  unfold ofName
  split
  · simp
  · exact (when_sublist ..).cons _

theorem nodup_flatMap_zipIdx {α : Type} {report : α × Nat → List Problem}
    {place? : Problem → Option Nat} (hplace : ∀ a, ∀ p ∈ report a, place? p = some a.2)
    (hreport : ∀ a, (report a).Nodup) (elements : List α) :
    (elements.zipIdx.flatMap report).Nodup := by
  have hpositions : (elements.zipIdx.map (·.2)).Nodup := by
    rw [List.zipIdx_map_snd]
    exact List.nodup_range' 1
  refine List.nodup_flatMap.mpr ⟨fun a _ => hreport a, ?_⟩
  refine (List.pairwise_map.mp hpositions).imp ?_
  intro a b hne p hpa hpb
  exact hne (Option.some.inj ((hplace a p hpa).symm.trans (hplace b p hpb)))

theorem places_of_mem_ofExchange {i j : Nat} {exchange : Exchange} {p : Problem}
    (h : p ∈ ofExchange i j exchange) : p.endpoint? = some i ∧ p.exchange? = some j := by
  rcases mem_ofExchange.mp h with ⟨-, rfl⟩ | ⟨-, rfl⟩ | ⟨_, _, -, ⟨-, rfl⟩ | ⟨-, rfl⟩⟩ <;>
    exact ⟨rfl, rfl⟩

theorem endpoint?_of_mem_ofEndpoint {i : Nat} {before : List Endpoint} {endpoint : Endpoint}
    {p : Problem} (h : p ∈ ofEndpoint i before endpoint) : p.endpoint? = some i := by
  simp only [ofEndpoint, List.mem_append, mem_when, mem_ofName] at h
  rcases h with ((⟨-, rfl⟩ | ⟨-, rfl⟩) | ⟨-, rfl⟩) | h
  · rfl
  · rfl
  · rfl
  · obtain ⟨j, exchange, -, h⟩ := mem_ofExchanges.mp h
    exact (places_of_mem_ofExchange h).1

theorem nodup_append_placed {own placed : List Problem} (place? : Problem → Option Nat)
    (hown : own.Nodup) (hplaced : placed.Nodup) (hnone : ∀ p ∈ own, place? p = none)
    (hsome : ∀ p ∈ placed, place? p ≠ none) : (own ++ placed).Nodup := by
  refine List.nodup_append.mpr ⟨hown, hplaced, ?_⟩
  rintro p hp _ hq rfl
  exact hsome p hq (hnone p hp)

theorem nodup_ofEndpoint (i : Nat) (before : List Endpoint) (endpoint : Endpoint) :
    (ofEndpoint i before endpoint).Nodup := by
  have hown := (ofName_sublist i before endpoint.name).append
    (when_sublist endpoint.url.isEmpty (.noUrl i))
  have hexchanges : (ofExchanges i endpoint.exchanges).Nodup :=
    nodup_flatMap_zipIdx (fun _ _ h => (places_of_mem_ofExchange h).2)
      (fun _ => nodup_ofExchange ..) endpoint.exchanges
  refine nodup_append_placed exchange? (hown.nodup (by simp)) hexchanges ?_ ?_
  · intro p hp
    have hmem := hown.subset hp
    simp only [List.cons_append, List.nil_append, List.mem_cons, List.not_mem_nil, or_false] at hmem
    rcases hmem with rfl | rfl | rfl <;> rfl
  · intro p hp
    obtain ⟨j, exchange, -, hp⟩ := mem_ofExchanges.mp hp
    simp [(places_of_mem_ofExchange hp).2]

theorem nodup_problems (document : Document) : document.problems.Nodup := by
  have hown := ((when_sublist document.info.title.isEmpty .noTitle).append
    (when_sublist document.info.version.isEmpty .noVersion)).append
    (when_sublist document.endpoints.isEmpty .noEndpoints)
  have hendpoints : (ofEndpoints document.endpoints).Nodup :=
    nodup_flatMap_zipIdx (fun _ _ => endpoint?_of_mem_ofEndpoint) (fun _ => nodup_ofEndpoint ..)
      document.endpoints
  refine nodup_append_placed endpoint? (hown.nodup (by simp)) hendpoints ?_ ?_
  · intro p hp
    have hmem := hown.subset hp
    simp only [List.cons_append, List.nil_append, List.mem_cons, List.not_mem_nil, or_false] at hmem
    rcases hmem with rfl | rfl | rfl <;> rfl
  · intro p hp
    obtain ⟨a, -, hp⟩ := List.mem_flatMap.mp hp
    simp [endpoint?_of_mem_ofEndpoint hp]

-- ---------------------------------------------------------------------------
-- One pass
-- ---------------------------------------------------------------------------

def onePass (seen : Finset String) (i : Nat) : List Endpoint → List Problem
  | [] => []
  | endpoint :: rest =>
    (if endpoint.name.isEmpty then [.unnamedEndpoint i]
      else when (endpoint.name ∈ seen) (.repeatedName i endpoint.name)) ++
      when endpoint.url.isEmpty (.noUrl i) ++ ofExchanges i endpoint.exchanges ++
      onePass (if endpoint.name.isEmpty then seen else insert endpoint.name seen) (i + 1) rest

/-- The set holds the names, other than the empty one, of the endpoints before. -/
def Met (before : List Endpoint) (seen : Finset String) : Prop :=
  ∀ name, name ∈ seen ↔ name ≠ "" ∧ ∃ earlier ∈ before, earlier.name = name

theorem Met.concat {before : List Endpoint} {seen : Finset String} (h : Met before seen)
    (endpoint : Endpoint) :
    Met (before ++ [endpoint]) (if endpoint.name.isEmpty then seen else insert endpoint.name seen) := by
  intro name
  have hbefore : (∃ earlier ∈ before ++ [endpoint], earlier.name = name) ↔
      (∃ earlier ∈ before, earlier.name = name) ∨ endpoint.name = name := by
    simp [or_and_right, exists_or]
  rw [hbefore]
  split
  · rename_i hempty
    rw [String.isEmpty_iff] at hempty
    rw [h name, hempty]
    constructor
    · exact fun ⟨hname, hmet⟩ => ⟨hname, .inl hmet⟩
    · rintro ⟨hname, hmet | heq⟩
      · exact ⟨hname, hmet⟩
      · exact absurd heq.symm hname
  · rename_i hname
    rw [String.isEmpty_iff] at hname
    rw [Finset.mem_insert, h name]
    constructor
    · rintro (rfl | ⟨hne, hmet⟩)
      · exact ⟨hname, .inr rfl⟩
      · exact ⟨hne, .inl hmet⟩
    · rintro ⟨hne, hmet | rfl⟩
      · exact .inr ⟨hne, hmet⟩
      · exact .inl rfl

theorem Met.ofName_eq {before : List Endpoint} {seen : Finset String} (h : Met before seen)
    (i : Nat) (name : String) :
    ofName i before name = if name.isEmpty then [.unnamedEndpoint i]
      else when (name ∈ seen) (.repeatedName i name) := by
  unfold ofName
  split
  · rfl
  · rename_i hname
    rw [String.isEmpty_iff] at hname
    have hany : before.any (·.name == name) = decide (name ∈ seen) := by
      rw [Bool.eq_iff_iff, List.any_eq_true, decide_eq_true_iff, h name]
      simp [hname]
    rw [hany]

theorem onePass_eq {before : List Endpoint} {seen : Finset String} (h : Met before seen)
    (rest : List Endpoint) :
    onePass seen before.length rest = (rest.zipIdx before.length).flatMap fun (endpoint, i) =>
      ofEndpoint i ((before ++ rest).take i) endpoint := by
  induction rest generalizing before seen with
  | nil => rfl
  | cons endpoint rest ih =>
    have hlater := ih (h.concat endpoint)
    rw [List.length_append, List.length_singleton, List.append_assoc, List.singleton_append] at hlater
    rw [onePass, hlater, List.zipIdx_cons, List.flatMap_cons]
    dsimp only
    rw [ofEndpoint, List.take_left, h.ofName_eq]

/-- Comparing a name with all names before comes to the same as keeping a set of names. -/
theorem ofEndpoints_eq_onePass (endpoints : List Endpoint) :
    ofEndpoints endpoints = onePass ∅ 0 endpoints := by
  have hstart : Met [] ∅ := fun name => by simp
  exact (onePass_eq hstart endpoints).symm

end Problem

-- ---------------------------------------------------------------------------
-- Validity decided
-- ---------------------------------------------------------------------------

namespace Document

variable {document : Document}

theorem nodup_names_iff (hnamed : ∀ endpoint ∈ document.endpoints, endpoint.name ≠ "") :
    (document.endpoints.map (·.name)).Nodup ↔
      ∀ i name, ¬(Problem.repeatedName i name).Occurs document := by
  have hmem : ∀ {i : Nat} {endpoint : Endpoint}, endpoint ∈ document.endpoints[i]? →
      endpoint ∈ document.endpoints := fun h => List.mem_of_getElem? h
  rw [List.nodup_iff_pairwise_ne, List.pairwise_map, List.pairwise_iff_getElem]
  constructor
  · rintro hdistinct i name ⟨-, ⟨endpoint, hendpoint, rfl⟩, k, hk, earlier, hearlier, hname⟩
    obtain ⟨hi, rfl⟩ := List.getElem?_eq_some_iff.mp hendpoint
    obtain ⟨hk', rfl⟩ := List.getElem?_eq_some_iff.mp hearlier
    exact hdistinct k i hk' hi hk hname
  · intro hnone k i hk hi hlt heq
    have hendpoint : document.endpoints[i] ∈ document.endpoints[i]? :=
      List.getElem?_eq_getElem hi
    refine hnone i document.endpoints[i].name ⟨hnamed _ (hmem hendpoint), ⟨_, hendpoint, rfl⟩, k, hlt,
      _, List.getElem?_eq_getElem hk, heq⟩

theorem Valid.exchange (h : document.Valid) {i j : Nat} {exchange : Exchange}
    (hexchange : exchange ∈ document.exchange? i j) : exchange.Valid := by
  obtain ⟨endpoint, hendpoint, hexchange⟩ := Option.mem_bind_iff.mp hexchange
  exact h.exchanges endpoint (List.mem_of_getElem? hendpoint) exchange
    (List.mem_of_getElem? hexchange)

/-- A document is valid exactly if it has no problem. -/
theorem valid_iff : document.Valid ↔ ∀ p : Problem, ¬p.Occurs document := by
  constructor
  · intro h p hp
    cases p with
    | noTitle => exact h.titled hp
    | noVersion => exact h.versioned hp
    | noEndpoints => exact h.inhabited hp
    | unnamedEndpoint i =>
      obtain ⟨endpoint, hendpoint, hname⟩ := hp
      exact h.named endpoint (List.mem_of_getElem? hendpoint) hname
    | repeatedName i name => exact (nodup_names_iff h.named).mp h.distinct i name hp
    | noUrl i =>
      obtain ⟨endpoint, hendpoint, hurl⟩ := hp
      exact h.addressed endpoint (List.mem_of_getElem? hendpoint) hurl
    | untypedExchange i j =>
      obtain ⟨exchange, hexchange, htype⟩ := hp
      exact (h.exchange hexchange).typed htype
    | emptyExchange i j =>
      obtain ⟨exchange, hexchange, hsend, hreceive⟩ := hp
      exact (h.exchange hexchange).filled.elim (· hsend) (· hreceive)
    | untypedMessage i j slot =>
      obtain ⟨exchange, hexchange, message, hmessage, htype⟩ := hp
      exact ((h.exchange hexchange).slot hmessage).typed htype
    | wrongDirection i j slot =>
      obtain ⟨exchange, hexchange, message, hmessage, hdirection⟩ := hp
      exact hdirection ((h.exchange hexchange).slot hmessage).directed
  · intro h
    have hnamed : ∀ endpoint ∈ document.endpoints, endpoint.name ≠ "" := by
      intro endpoint hendpoint hname
      obtain ⟨i, hi⟩ := List.mem_iff_getElem?.mp hendpoint
      exact h (.unnamedEndpoint i) ⟨endpoint, hi, hname⟩
    have haddressed : ∀ endpoint ∈ document.endpoints, endpoint.url ≠ "" := by
      intro endpoint hendpoint hurl
      obtain ⟨i, hi⟩ := List.mem_iff_getElem?.mp hendpoint
      exact h (.noUrl i) ⟨endpoint, hi, hurl⟩
    have hexchanges : ∀ endpoint ∈ document.endpoints, ∀ exchange ∈ endpoint.exchanges,
        exchange.Valid := by
      intro endpoint hendpoint exchange hexchange
      obtain ⟨i, hi⟩ := List.mem_iff_getElem?.mp hendpoint
      obtain ⟨j, hj⟩ := List.mem_iff_getElem?.mp hexchange
      have hplace : exchange ∈ document.exchange? i j :=
        Option.mem_bind_iff.mpr ⟨endpoint, hi, hj⟩
      refine Exchange.valid_of_slots (fun htype => h (.untypedExchange i j) ⟨_, hplace, htype⟩)
        (fun hempty => h (.emptyExchange i j) ⟨_, hplace, hempty⟩) ?_
      intro slot message hmessage
      exact {
        typed := fun htype => h (.untypedMessage i j slot) ⟨_, hplace, _, hmessage, htype⟩
        directed := not_not.mp fun hne => h (.wrongDirection i j slot) ⟨_, hplace, _, hmessage, hne⟩ }
    exact {
      titled := h .noTitle
      versioned := h .noVersion
      inhabited := h .noEndpoints
      named := hnamed
      distinct := (nodup_names_iff hnamed).mpr fun i name => h (.repeatedName i name)
      addressed := haddressed
      exchanges := hexchanges }

/-- The check finds no problem exactly in the valid documents. It reports a problem exactly if the
element at its position has it, a repeated name at an endpoint whose name an earlier one has, and it
reports none twice. It does so in one pass over the endpoints. -/
theorem problems_exact (document : Document) :
    (document.problems = [] ↔ document.Valid) ∧
    (∀ p, p ∈ document.problems ↔ p.Occurs document) ∧
    (∀ i, (∃ name, .repeatedName i name ∈ document.problems) ↔
      ∃ endpoint ∈ document.endpoints[i]?, endpoint.name ≠ "" ∧
        ∃ k < i, ∃ earlier ∈ document.endpoints[k]?, earlier.name = endpoint.name) ∧
    (document.problems.map Problem.message).Nodup ∧
    Problem.ofEndpoints document.endpoints = Problem.onePass ∅ 0 document.endpoints := by
  refine ⟨?_, fun p => Problem.mem_problems, ?_,
    (Problem.nodup_problems document).map Problem.message_injective,
    Problem.ofEndpoints_eq_onePass document.endpoints⟩
  · simp only [valid_iff, List.eq_nil_iff_forall_not_mem, Problem.mem_problems]
  · intro i
    simp only [Problem.mem_problems, Problem.Occurs]
    constructor
    · rintro ⟨name, hname, ⟨endpoint, hendpoint, rfl⟩, hearlier⟩
      exact ⟨endpoint, hendpoint, hname, hearlier⟩
    · rintro ⟨endpoint, hendpoint, hname, hearlier⟩
      exact ⟨endpoint.name, hname, ⟨endpoint, hendpoint, rfl⟩, hearlier⟩

end Document

end SocketDocs
