import LiveMarkup.Proofs.JsonLayout
import LiveMarkup.Proofs.Results
import LiveMarkup.Store

/-! # Reading back entries

Entries that are sorted by key are read back from their text as they were. Setting a value keeps them
sorted, and entries that come from a text are sorted.
-/
namespace LiveMarkup

section
variable {α : Type} {key : String}

theorem find?_insertMember (value : α) (e : List (String × α)) (other : String) :
    (insertMember key value e).find? (fun m => m.1 = other) =
      if key = other then some (key, value) else e.find? fun m => m.1 = other := by
  induction e with
  | nil => by_cases h : key = other <;> simp [insertMember, h]
  | cons m e ih =>
    rw [insertMember]
    by_cases hlt : key < m.1
    · rw [if_pos hlt]
      by_cases h : key = other <;> simp [h]
    · rw [if_neg hlt]
      by_cases heq : key = m.1
      · rw [if_pos heq]
        by_cases h : key = other
        · simp [h]
        · have hm : m.1 ≠ other := heq ▸ h
          simp [h, hm]
      · rw [if_neg heq, List.find?_cons, ih, List.find?_cons]
        by_cases h : key = other
        · have hm : m.1 ≠ other := fun e => heq (h.trans e.symm)
          simp [h, hm]
        · simp [h]

theorem mem_insertMember {value : α} {e : List (String × α)} {m : String × α}
    (h : m ∈ insertMember key value e) : m = (key, value) ∨ m ∈ e := by
  induction e with
  | nil => exact Or.inl (List.mem_singleton.1 h)
  | cons n e ih =>
    rw [insertMember] at h
    split_ifs at h
    · exact List.mem_cons.1 h
    · exact (List.mem_cons.1 h).imp_right (List.mem_cons_of_mem n)
    · rcases List.mem_cons.1 h with rfl | h
      · exact Or.inr List.mem_cons_self
      · exact (ih h).imp_right (List.mem_cons_of_mem n)

theorem insertMember_append (value : α) {before : List (String × α)}
    (h : ∀ m ∈ before, m.1 < key) : insertMember key value before = before ++ [(key, value)] := by
  induction before with
  | nil => rfl
  | cons m before ih =>
    have hm : m.1 < key := h m List.mem_cons_self
    have hrest := ih fun n hn => h n (List.mem_cons_of_mem _ hn)
    rw [insertMember, if_neg (lt_asymm hm), if_neg hm.ne', hrest, List.cons_append]

/-- Members in the order of their keys, each key once. -/
def SortedByKey (e : List (String × α)) : Prop := e.Pairwise fun m n => m.1 < n.1

theorem SortedByKey.insertMember {e : List (String × α)} (h : SortedByKey e) (value : α) :
    SortedByKey (insertMember key value e) := by
  induction e with
  | nil => exact List.pairwise_singleton _ _
  | cons m e ih =>
    obtain ⟨hm, he⟩ := List.pairwise_cons.1 h
    rw [LiveMarkup.insertMember]
    split_ifs with hlt heq
    · refine List.pairwise_cons.2 ⟨fun n hn => ?_, h⟩
      rcases List.mem_cons.1 hn with rfl | hn
      · exact hlt
      · exact hlt.trans (hm n hn)
    · exact List.pairwise_cons.2 ⟨fun n hn => heq ▸ hm n hn, he⟩
    · refine List.pairwise_cons.2 ⟨fun n hn => ?_, ih he⟩
      rcases mem_insertMember hn with rfl | hn
      · exact lt_of_le_of_ne (not_lt.1 hlt) fun e => heq e.symm
      · exact hm n hn

/-- Sorted members that are inserted one after the other stay as they are. -/
theorem foldl_insertMember {before e : List (String × α)} (h : SortedByKey (before ++ e)) :
    e.foldl (fun found m => LiveMarkup.insertMember m.1 m.2 found) before = before ++ e := by
  induction e generalizing before with
  | nil => simp
  | cons m e ih =>
    have hm : ∀ n ∈ before, n.1 < m.1 := fun n hn =>
      (List.pairwise_append.1 h).2.2 n hn m List.mem_cons_self
    rw [List.foldl_cons, insertMember_append m.2 hm, ih (by simpa using h), List.append_assoc,
      List.singleton_append]

end

def Entries.members (e : Entries) : List (String × Json) := e.map fun m => (m.1, .str m.2)

theorem Entries.spellsMembers (e : Entries) (depth : Nat) :
    List.Forall₂ (JsonInput.SpellsMember depth)
      (e.members.map fun m => JsonInput.memberText [] m.1 (Json.compact m.2)) e.members := by
  rw [List.forall₂_map_left_iff, List.forall₂_same]
  intro m hm
  obtain ⟨n, -, rfl⟩ := List.mem_map.1 hm
  exact JsonInput.pair_memberText JsonInput.blank_nil n.1 (JsonInput.spells_stringText n.2)

theorem membersOfText?_toText (e : Entries) :
    Json.membersOfText? e.toText =
      .ok (e.members.foldl (fun found m => insertMember m.1 m.2 found) []) := by
  let text := Json.compactMembers e.members ++ ['\x7d']
  have htext : JsonInput.ofText e.toText = ⟨'\x7b' :: text, {}⟩ :=
    congrArg (JsonInput.mk · {}) String.toList_ofList
  have hmembers := JsonInput.listing_listed JsonInput.blank_nil JsonInput.blank_nil
    (e.spellsMembers 126)
  rw [List.append_nil, ← Json.compactMembers_eq] at hmembers
  have hfuel : (Json.compactMembers e.members).length < JsonInput.enough ⟨'\x7b' :: text, {}⟩ := by
    simp only [JsonInput.enough, text, List.length_cons, List.length_append]
    omega
  obtain ⟨behind, hmembers⟩ :=
    JsonInput.members_listing hmembers hfuel [] [] (Place.after {} '\x7b')
  have hblank : JsonInput.skipBlanks ⟨'\x7b' :: text, {}⟩ = ⟨'\x7b' :: text, {}⟩ := rfl
  have htop : JsonInput.topMembers ⟨'\x7b' :: text, {}⟩ (JsonInput.enough ⟨'\x7b' :: text, {}⟩)
      JsonInput.depthLimit =
        JsonInput.members (JsonInput.enough ⟨'\x7b' :: text, {}⟩) 127 true []
          ⟨text, Place.after {} '\x7b'⟩ := rfl
  have hread : JsonInput.members (JsonInput.enough ⟨'\x7b' :: text, {}⟩) 127 true []
      ⟨text, Place.after {} '\x7b'⟩ =
        .ok (e.members.foldl (fun found m => insertMember m.1 m.2 found) [], ⟨[], behind⟩) := hmembers
  have hend : JsonInput.atEnd ⟨[], behind⟩ = .ok () := rfl
  simp only [Json.membersOfText?, htext, hblank, if_true, htop, hread, bind, Except.bind, hend]

theorem JsonInput.sortedByKey_members {fuel depth : Nat} {first : Bool}
    {before found : List (String × Json)} {i behind : JsonInput} (hb : SortedByKey before)
    (h : members fuel depth first before i = .ok (found, behind)) : SortedByKey found := by
  induction fuel generalizing first before i with
  | zero => exact nomatch h
  | succ fuel ih =>
    rw [members] at h
    obtain ⟨⟨more, i⟩, -, h⟩ := bind_eq_ok.1 h
    cases more with
    | false =>
      obtain ⟨rfl, -⟩ := Prod.mk.inj (Except.ok.inj h)
      exact hb
    | true =>
      obtain ⟨⟨key, i⟩, -, h⟩ := bind_eq_ok.1 h
      obtain ⟨i, -, h⟩ := bind_eq_ok.1 h
      obtain ⟨⟨v, i⟩, -, h⟩ := bind_eq_ok.1 h
      exact ih (hb.insertMember v) h

theorem JsonInput.unexpected_ne_ok {α : Type} (i : JsonInput) (expected : String) (a : α) :
    i.unexpected expected ≠ .ok a := by
  intro h
  unfold unexpected at h
  split at h
  · exact nomatch h
  · simp only at h
    split_ifs at h
    · obtain ⟨_, -, h⟩ := bind_eq_ok.1 h
      exact nomatch h
    · obtain ⟨_, -, h⟩ := bind_eq_ok.1 h
      exact nomatch h
    · obtain ⟨_, -, h⟩ := bind_eq_ok.1 h
      exact nomatch h
    · obtain ⟨⟨n, _⟩, -, h⟩ := bind_eq_ok.1 h
      cases n <;> exact nomatch h
    · obtain ⟨⟨n, _⟩, -, h⟩ := bind_eq_ok.1 h
      cases n <;> exact nomatch h
    · obtain ⟨_, -, h⟩ := bind_eq_ok.1 h
      exact nomatch h
    · exact nomatch h
    · exact nomatch h
    · exact nomatch h

theorem sortedByKey_membersOfText? {text : String} {found : List (String × Json)}
    (h : Json.membersOfText? text = .ok found) : SortedByKey found := by
  unfold Json.membersOfText? at h
  simp only at h
  split at h
  · exact nomatch h
  · split_ifs at h
    · obtain ⟨⟨members, behind⟩, htop, h⟩ := bind_eq_ok.1 h
      obtain ⟨_, -, h⟩ := bind_eq_ok.1 h
      obtain rfl := Except.ok.inj h
      obtain ⟨_, -, hmembers⟩ := bind_eq_ok.1 htop
      exact JsonInput.sortedByKey_members List.Pairwise.nil hmembers
    · obtain ⟨_, hwrong, -⟩ := bind_eq_ok.1 h
      exact absurd hwrong (JsonInput.unexpected_ne_ok _ _ _)

theorem sortedByKey_ofMembers {members : List (String × Json)} (h : SortedByKey members) :
    SortedByKey (Entries.ofMembers members) := by
  refine List.Pairwise.filterMap _ ?_ h
  intro m m' hlt n hn n' hn'
  split at hn
  · split at hn'
    · obtain rfl := Option.some.inj hn
      obtain rfl := Option.some.inj hn'
      exact hlt
    · exact nomatch hn'
  · exact nomatch hn

theorem Entries.ofMembers_members (e : Entries) : Entries.ofMembers e.members = e := by
  induction e with
  | nil => rfl
  | cons m e ih => exact congrArg (m :: ·) ih

theorem FileStore.parse_toText {e : Entries} (h : SortedByKey e) (path : String) :
    parse path e.toText = .ok e := by
  have hsorted : SortedByKey e.members := List.pairwise_map.2 h
  have hread := @foldl_insertMember _ [] e.members hsorted
  rw [parse, membersOfText?_toText, hread, List.nil_append]
  exact congrArg Except.ok (Entries.ofMembers_members e)

end LiveMarkup
