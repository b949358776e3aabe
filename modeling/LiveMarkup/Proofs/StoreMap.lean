import LiveMarkup.Proofs.Durability

/-! # A store is a map

A store answers every get as a map from strings to strings does that holds at first the string members of
its file, and is changed by the sets alone. The members of a file are listed as they stand in its text:
of those with one key the last counts, and only if it is a string. Opening the file afresh at any point
gives the store back as it was.
-/
namespace LiveMarkup

namespace JsonInput

/-- The members of an object in the order of its text, those with the same key one by one, and what is
behind its closing brace. -/
def listedMembers : Nat → Nat → Bool → JsonInput →
    Except JsonFault (List (String × Json) × JsonInput)
  | 0, _, _, i => i.fail .tooDeep
  | fuel + 1, depth, first, i => do
    let (more, i) ← i.nextKey first
    if more then
      let (key, i) ← i.skip.string
      let i ← i.colon
      let (v, i) ← value fuel depth i
      let (later, i) ← listedMembers fuel depth false i
      .ok ((key, v) :: later, i)
    else .ok ([], i.skip)

theorem members_eq_foldl (fuel depth : Nat) (first : Bool) (before : List (String × Json))
    (i : JsonInput) :
    members fuel depth first before i = (listedMembers fuel depth first i).map fun found =>
      (found.1.foldl (fun acc m => insertMember m.1 m.2 acc) before, found.2) := by
  induction fuel generalizing first before i with
  | zero => rfl
  | succ fuel ih =>
    rw [members, listedMembers, map_bind]
    congr 1
    funext next
    obtain ⟨more, i⟩ := next
    cases more with
    | false => rfl
    | true =>
      simp only [if_true, map_bind]
      congr 1
      funext next
      obtain ⟨key, i⟩ := next
      congr 1
      funext i
      congr 1
      funext next
      obtain ⟨v, i⟩ := next
      rw [ih]
      cases listedMembers fuel depth false i <;> rfl

end JsonInput

/-- The members of the object that a text holds, as they are listed there. -/
def Json.listedMembersOfText? (text : String) : Except JsonFault (List (String × Json)) := do
  let i := (JsonInput.ofText text).skipBlanks
  let (found, i) ← match i.rest with
    | [] => i.failPeek .eofInValue
    | c :: _ =>
      if c = '\x7b' then do
        JsonInput.listedMembers i.enough (JsonInput.depthLimit - 1) true
          (← i.openBracket JsonInput.depthLimit)
      else i.unexpected "a map"
  i.atEnd
  .ok found

theorem Json.membersOfText?_eq_foldl (text : String) :
    Json.membersOfText? text = (Json.listedMembersOfText? text).map fun found =>
      found.foldl (fun acc m => insertMember m.1 m.2 acc) [] := by
  unfold Json.membersOfText? Json.listedMembersOfText?
  generalize (JsonInput.ofText text).skipBlanks = i
  obtain ⟨rest, place⟩ := i
  cases rest with
  | nil => rfl
  | cons c rest =>
    by_cases hc : c = '\x7b'
    · simp only [hc, if_true, JsonInput.topMembers, JsonInput.members_eq_foldl, map_bind]
      cases JsonInput.openBracket ⟨'\x7b' :: rest, place⟩ JsonInput.depthLimit with
      | error fault => rfl
      | ok inner =>
        dsimp only [bind, Except.bind]
        cases JsonInput.listedMembers _ (JsonInput.depthLimit - 1) true inner with
        | error fault => rfl
        | ok found => rfl
    · simp only [hc, if_false, map_bind]
      cases h : JsonInput.unexpected (α := List (String × Json) × JsonInput) ⟨c :: rest, place⟩
        "a map" with
      | error fault => rfl
      | ok found => exact absurd h (JsonInput.unexpected_ne_ok _ _ _)

/-- The text of a value that is a string. -/
def Json.string? : Json → Option String
  | str text => some text
  | _ => none

/-- The string that the last member with a key holds; nothing if that member is no string. -/
def lastString (members : List (String × Json)) (key : String) : Option String :=
  (members.reverse.find? fun m => m.1 = key).bind fun m => m.2.string?

theorem find?_foldl_insertMember {α : Type} (members : List (String × α)) (key : String) :
    (members.foldl (fun acc m => insertMember m.1 m.2 acc) []).find? (fun m => m.1 = key) =
      members.reverse.find? fun m => m.1 = key := by
  induction members using List.reverseRecOn with
  | nil => rfl
  | append_singleton members m ih =>
    rw [List.foldl_append, List.foldl_cons, List.foldl_nil, find?_insertMember, ih,
      List.reverse_append, List.reverse_singleton, List.singleton_append, List.find?_cons]
    by_cases h : m.1 = key
    · rw [if_pos h, ← h, decide_eq_true rfl]
    · rw [if_neg h, decide_eq_false h]

theorem Entries.ofMembers_cons (m : String × Json) (members : List (String × Json)) :
    Entries.ofMembers (m :: members) =
      (m.2.string?.map fun text => (m.1, text)).toList ++ Entries.ofMembers members := by
  obtain ⟨key, v⟩ := m
  cases v <;> rfl

/-- Where each key stands once, leaving out what is no string hides no string. -/
theorem Entries.get?_ofMembers {members : List (String × Json)} (h : SortedByKey members)
    (key : String) :
    (Entries.ofMembers members).get? key =
      (members.find? fun m => m.1 = key).bind fun m => m.2.string? := by
  induction members with
  | nil => rfl
  | cons m members ih =>
    obtain ⟨hm, hmembers⟩ := List.pairwise_cons.1 h
    have ih := ih hmembers
    rw [Entries.ofMembers_cons, List.find?_cons]
    by_cases hkey : m.1 = key
    · rw [decide_eq_true hkey]
      -- no later member has this key
      have hnone : members.find? (fun n => n.1 = key) = none := by
        rw [List.find?_eq_none]
        intro n hn he
        exact (hm n hn).ne (hkey.trans (of_decide_eq_true he).symm)
      rw [hnone] at ih
      cases hv : m.2.string? with
      | none => simpa [hv] using ih
      | some text => simp [get?, hkey, hv]
    · rw [decide_eq_false hkey]
      cases hv : m.2.string? with
      | none => simpa using ih
      | some text => simpa [get?, hkey] using ih

/-- What a store holds that is opened on a file are the strings among the last members of its text. -/
theorem FileStore.get?_openAt {t : FileTree} {path : String} {s : FileStore}
    (h : openAt t path = .ok s) :
    ∃ members, (t.readText path = .error .notFound ∧ members = [] ∨
        ∃ text, t.readText path = .ok text ∧ Json.listedMembersOfText? text = .ok members) ∧
      ∀ key, s.get? key = lastString members key := by
  unfold openAt at h
  split at h
  · rename_i text htext
    rw [parse, Json.membersOfText?_eq_foldl] at h
    cases hlisted : Json.listedMembersOfText? text with
    | error fault =>
      rw [hlisted] at h
      cases h
    | ok members =>
      rw [hlisted] at h
      obtain rfl := Except.ok.inj h
      refine ⟨members, Or.inr ⟨text, htext, hlisted⟩, fun key => ?_⟩
      have hmembers := Json.membersOfText?_eq_foldl text
      rw [hlisted] at hmembers
      exact (Entries.get?_ofMembers (sortedByKey_membersOfText? hmembers) key).trans
        (by rw [find?_foldl_insertMember]; rfl)
  · rename_i e he
    split_ifs at h with hmissing
    obtain rfl := Except.ok.inj h
    exact ⟨[], Or.inl ⟨hmissing ▸ he, rfl⟩, fun _ => rfl⟩

/-- A use of a store: a get, a set, or opening its file afresh. -/
inductive StoreUse where
  | get (key : String)
  | set (key value : String)
  | reopen

/-- A store on a disk that nobody else writes to. -/
structure StoreOnDisk where
  store : FileStore
  tree : FileTree
  /-- Whether a set has failed so far. -/
  failed : Bool := false

namespace StoreOnDisk

/-- What a use answers: the value found, or only whether it worked. -/
def use (d : StoreOnDisk) : StoreUse → Except StoreError (Option String) × StoreOnDisk
  | .get key => (.ok (d.store.get? key), d)
  | .set key value =>
    let done := d.store.set d.tree key value {}
    (done.result.map fun _ => none, ⟨done.store, done.tree, d.failed || !done.result.isOk⟩)
  | .reopen => match FileStore.openAt d.tree d.store.path with
    | .ok store => (.ok none, { d with store })
    | .error e => (.error e, d)

def answers (d : StoreOnDisk) : List StoreUse → List (Except StoreError (Option String))
  | [] => []
  | u :: uses => (d.use u).1 :: answers (d.use u).2 uses

def after (d : StoreOnDisk) (uses : List StoreUse) : StoreOnDisk :=
  uses.foldl (fun d u => (d.use u).2) d

end StoreOnDisk

/-- What a map from strings to strings answers to the same uses. -/
def mapAnswers (held : String → Option String) :
    List StoreUse → List (Except StoreError (Option String))
  | [] => []
  | .get key :: uses => .ok (held key) :: mapAnswers held uses
  | .set key value :: uses => .ok none :: mapAnswers (Function.update held key (some value)) uses
  | .reopen :: uses => .ok none :: mapAnswers held uses

namespace StoreOnDisk

/-- A store whose file holds what it holds, and that holds what a map does. -/
structure Mirrors (held : String → Option String) (d : StoreOnDisk) : Prop where
  saved : FileStore.openAt d.tree d.store.path = .ok d.store
  get? : ∀ key, d.store.get? key = held key

variable {held : String → Option String} {d : StoreOnDisk}

theorem failed_use {u : StoreUse} (h : d.failed = true) : (d.use u).2.failed = true := by
  cases u with
  | get key => exact h
  | set key value => simp [use, h]
  | reopen =>
    rw [use]
    split <;> exact h

theorem failed_after {uses : List StoreUse} (h : d.failed = true) : (d.after uses).failed = true := by
  induction uses generalizing d with
  | nil => exact h
  | cons u uses ih => exact ih (failed_use h)

theorem Mirrors.set (h : Mirrors held d) {key value : String}
    (hok : (d.use (.set key value)).2.failed = false) :
    (d.use (.set key value)).1 = .ok none ∧
      Mirrors (Function.update held key (some value)) (d.use (.set key value)).2 := by
  have hpath := d.store.path_set d.tree key value {}
  have hget := d.store.get?_set d.tree key value {}
  have hopen : (d.store.set d.tree key value {}).result = .ok () →
      FileStore.openAt (d.store.set d.tree key value {}).tree d.store.path =
        .ok (d.store.set d.tree key value {}).store := FileStore.openAt_set_of_openAt h.saved
  simp only [use, Bool.or_eq_false_iff] at hok ⊢
  generalize d.store.set d.tree key value {} = done at *
  cases hresult : done.result with
  | error e =>
    rw [hresult] at hok
    exact nomatch hok.2
  | ok =>
    refine ⟨rfl, ?_, fun other => ?_⟩
    · rw [hpath]
      exact hopen hresult
    · rw [hget other, h.get? other, Function.update_apply]
      by_cases hother : key = other
      · rw [if_pos hother, if_pos hother.symm]
      · rw [if_neg hother, if_neg (Ne.symm hother)]

theorem Mirrors.answers_eq (h : Mirrors held d) (uses : List StoreUse)
    (hok : (d.after uses).failed = false) : d.answers uses = mapAnswers held uses := by
  induction uses generalizing held d with
  | nil => rfl
  | cons u uses ih =>
    have hfirst : (d.use u).2.failed = false := by
      by_contra hfailed
      rw [Bool.not_eq_false] at hfailed
      have hlast : ((d.use u).2.after uses).failed = true := failed_after hfailed
      exact nomatch hok.symm.trans hlast
    cases u with
    | get key => exact congrArg₂ (· :: ·) (congrArg Except.ok (h.get? key)) (ih h hok)
    | set key value =>
      obtain ⟨hanswer, hmirrors⟩ := h.set hfirst
      exact congrArg₂ (· :: ·) hanswer (ih hmirrors hok)
    | reopen =>
      -- the file gives the store back as it is
      have hsame : d.use .reopen = (.ok none, d) := by simp only [use, h.saved]
      rw [after, List.foldl_cons, hsame] at hok
      rw [answers, mapAnswers, hsame]
      exact congrArg (_ :: ·) (ih h hok)

end StoreOnDisk

/-- While no set fails, a store that could be opened answers every sequence of gets, sets and openings
afresh as a map does that holds at first the strings among the last members of the file's text, or nothing
where there is no file. -/
theorem answers_eq_mapAnswers {t : FileTree} {path : String} {s : FileStore}
    (hopen : FileStore.openAt t path = .ok s) :
    ∃ members, (t.readText path = .error .notFound ∧ members = [] ∨
        ∃ text, t.readText path = .ok text ∧ Json.listedMembersOfText? text = .ok members) ∧
      ∀ uses, ((⟨s, t, false⟩ : StoreOnDisk).after uses).failed = false →
        (⟨s, t, false⟩ : StoreOnDisk).answers uses = mapAnswers (lastString members) uses := by
  obtain ⟨members, hmembers, hget⟩ := FileStore.get?_openAt hopen
  refine ⟨members, hmembers, fun uses hok => ?_⟩
  have hpath := (FileStore.sortedByKey_openAt hopen).1
  have hmirrors : StoreOnDisk.Mirrors (lastString members) ⟨s, t, false⟩ := ⟨hpath.symm ▸ hopen, hget⟩
  exact hmirrors.answers_eq uses hok

/-- A file with a key twice and a member that is no string, a set of that key to text that has to be
escaped, and an opening afresh. -/
theorem answers_eq_mapAnswers_repeated :
    let text := "\x7b\"k\":\"a\",\"n\":1,\"k\":\"b\"\x7d"
    let t : FileTree := { nodes := [(["state.json"], .file (encodeUtf8 text.toList))] }
    let uses : List StoreUse := [.get "k", .get "n", .set "n" "é\n", .reopen, .get "n", .get "k"]
    ∃ s, FileStore.openAt t "state.json" = .ok s ∧ (⟨s, t, false⟩ : StoreOnDisk).answers uses =
      [.ok (some "b"), .ok none, .ok none, .ok none, .ok (some "é\n"), .ok (some "b")] := by
  intro text t uses
  have hread : t.readText "state.json" = .ok text := by decide +kernel
  have hlisted : Json.listedMembersOfText? text =
      .ok [("k", .str "a"), ("n", .num (.int 1)), ("k", .str "b")] := by
    simp only [text]
    cbv
  have hopen : FileStore.openAt t "state.json" = .ok ⟨"state.json", [("k", "b")]⟩ := by
    rw [FileStore.openAt_of_readText hread, FileStore.parse, Json.membersOfText?_eq_foldl, hlisted]
    cbv
  obtain ⟨members, hmembers, hanswers⟩ := answers_eq_mapAnswers hopen
  refine ⟨_, hopen, ?_⟩
  have hsame : members = [("k", .str "a"), ("n", .num (.int 1)), ("k", .str "b")] := by
    rcases hmembers with ⟨hmissing, -⟩ | ⟨found, hfound, hmembers⟩
    · cases hread.symm.trans hmissing
    · obtain rfl := Except.ok.inj (hread.symm.trans hfound)
      exact Except.ok.inj (hmembers.symm.trans hlisted)
  have hok : ((⟨⟨"state.json", [("k", "b")]⟩, t, false⟩ : StoreOnDisk).after uses).failed = false := by
    decide +kernel
  rw [hanswers uses hok, hsame]
  rfl

end LiveMarkup
