import SubswapProvider.JsonDb

/-!
# The patch log

What the datastore holds is a document with patches behind it, and the process has some more patches
that it has not written. The document, with all of these applied to it, is the one the process works
on: this is the invariant of the store (`Coherent`). A write moves the pending patches behind the
others or puts the document in place of all of them, and a new process starts with the patches applied,
so a restart leads to the document as of the last write (`open_written`).

One thing breaks it. A swap object goes on recording patches under its path when it is not stored
there any more, or is stored in another place too (`AtHome`); such a patch is refused, and a text with
a refused patch in it is never loaded again.
-/

namespace SubswapProvider.JsonDb

open JsonPatch Effect

variable {α : Type} {heap heap' : Nat → StoredObject α} {s : State α}

/-! ## Patches of a document -/

section Patches

variable {ms es : List (Str × DocTree α)} {name key field : Str}
variable {f : Str → List (Str × DocTree α) → Option (List (Str × DocTree α))}

theorem atMember_table (hname : Plain name) :
    atMember (pointer [name]) f (.node ms) = (f name ms).map .node := by
  have h : ∀ n ∈ [] ++ [name], Plain n := by
    intro n hn
    rw [List.mem_singleton.mp hn]
    exact hname
  exact atMember_pointer h

theorem atMember_entry (hname : Plain name) (hkey : Plain key)
    (htable : member? name ms = some (.node es)) : atMember (pointer [name, key]) f (.node ms)
      = (f key es).map fun es' => .node (setMember name (.node es') ms) := by
  have h : ∀ n ∈ [name] ++ [key], Plain n := by
    intro n hn
    simp only [List.cons_append, List.nil_append, List.mem_cons, List.not_mem_nil, or_false] at hn
    rcases hn with rfl | rfl
    · exact hname
    · exact hkey
  rw [show [name, key] = [name] ++ [key] from rfl, atMember_pointer h]
  unfold descend
  rw [htable]
  dsimp only
  unfold descend
  rw [Option.map_map]
  rfl

theorem atMember_field (hname : Plain name) (hkey : Plain key) (hfield : Plain field)
    {fs : List (Str × DocTree α)} (htable : member? name ms = some (.node es))
    (hentry : member? key es = some (.node fs)) :
    atMember (pointer [name, key, field]) f (.node ms) = (f field fs).map fun fs' =>
      .node (setMember name (.node (setMember key (.node fs') es)) ms) := by
  have h : ∀ n ∈ [name, key] ++ [field], Plain n := by
    intro n hn
    simp only [List.cons_append, List.nil_append, List.mem_cons, List.not_mem_nil, or_false] at hn
    rcases hn with rfl | rfl | rfl
    · exact hname
    · exact hkey
    · exact hfield
  rw [show [name, key, field] = [name, key] ++ [field] from rfl, atMember_pointer h]
  unfold descend
  rw [htable]
  dsimp only
  unfold descend
  rw [hentry]
  dsimp only
  unfold descend
  rw [Option.map_map, Option.map_map]
  rfl

end Patches

/-! ## The entries of the live data -/

/-- The value under a key of a table. -/
def State.lookup (s : State α) (name key : Str) : Option (Entry α) :=
  (s.data.get? name).bind fun entries => entries.get? key

theorem State.lookup_of (h : s.data.get? name = some entries) (key : Str) :
    s.lookup name key = entries.get? key := by
  unfold State.lookup
  rw [h]
  rfl

theorem member?_doc (heap : Nat → StoredObject α) {data : Dict Str (Dict Str (Entry α))}
    {name : Str} {entries : Dict Str (Entry α)} (h : data.get? name = some entries) :
    member? name (members (tableJson heap) data) = some (.node (members (Entry.json heap) entries)) := by
  rw [member?_members, h]
  rfl

/-- What is stored under a path has no part in `set_db`. -/
theorem json_setDb (path : Str × Str) (v : Entry α) (heap : Nat → StoredObject α) :
    Entry.json (setDb path v heap) = Entry.json heap := by
  funext e
  cases e with
  | value t => rfl
  | object ref =>
    cases v with
    | value t => rfl
    | object ref' =>
      show (Function.update heap ref' _ ref).json = (heap ref).json
      by_cases h : ref = ref'
      · rw [h, Function.update_self]
        rfl
      · rw [Function.update_of_ne h]

theorem tableJson_setDb (path : Str × Str) (v : Entry α) (heap : Nat → StoredObject α) :
    tableJson (setDb path v heap) = tableJson heap := by
  funext entries
  unfold tableJson
  rw [json_setDb]

section Refines

variable {data : Dict Str (Dict Str (Entry α))} {name key field : Str}
variable {entries : Dict Str (Entry α)} {v : Entry α}

/-- The document with an item set in one of the tables. -/
theorem setMember_item :
    setMember name (.node (setMember key (v.json heap) (members (Entry.json heap) entries)))
      (members (tableJson heap) data)
    = members (tableJson heap) (data.set name (entries.set key v)) := by
  rw [setMember_members (Entry.json heap) entries key v]
  exact setMember_members (tableJson heap) data name (entries.set key v)

theorem apply_add_item (hname : Plain name) (hkey : Plain key) (h : data.get? name = some entries) :
    apply (.node (members (tableJson heap) data)) (.add (pointer [name, key]) (v.json heap))
    = some (.node (members (tableJson heap) (data.set name (entries.set key v)))) := by
  show atMember _ _ _ = _
  rw [atMember_entry hname hkey (member?_doc heap h), Option.map_some, setMember_item]

theorem apply_replace_item (hname : Plain name) (hkey : Plain key)
    (h : data.get? name = some entries) (hold : entries.contains key = true) :
    apply (.node (members (tableJson heap) data)) (.replace (pointer [name, key]) (v.json heap))
    = some (.node (members (tableJson heap) (data.set name (entries.set key v)))) := by
  show atMember _ _ _ = _
  rw [atMember_entry hname hkey (member?_doc heap h),
    if_pos ((mem_members_iff (Entry.json heap) entries key).mpr hold), Option.map_some,
    setMember_item]

theorem apply_remove_item (hname : Plain name) (hkey : Plain key)
    (h : data.get? name = some entries) (hold : entries.contains key = true) :
    apply (.node (members (tableJson heap) data)) (.remove (pointer [name, key]))
    = some (.node (members (tableJson heap) (data.set name (entries.pop key)))) := by
  show atMember _ _ _ = _
  rw [atMember_entry hname hkey (member?_doc heap h),
    if_pos ((mem_members_iff (Entry.json heap) entries key).mpr hold), Option.map_some,
    popMember_members]
  exact congrArg (some <| DocTree.node ·)
    (setMember_members (tableJson heap) data name (entries.pop key))

theorem apply_add_table (hname : Plain name) :
    apply (.node (members (tableJson heap) data)) (.add (pointer [name]) (.node []))
    = some (.node (members (tableJson heap) (data.set name ∅))) := by
  show atMember _ _ _ = _
  rw [atMember_table hname, Option.map_some]
  exact congrArg (some <| DocTree.node ·) (setMember_members (tableJson heap) data name ∅)

end Refines

/-! ## Objects and where they are stored -/

/-- The object is stored under its path and nowhere else; one without a path is not stored. -/
def AtHome (s : State α) (ref : Nat) : Prop :=
  ∀ name key, s.lookup name key = some (.object ref) ↔ (s.heap ref).path = some (name, key)

theorem json_update_of_ne {ref : Nat} {obj : StoredObject α} {e : Entry α} (h : e ≠ .object ref) :
    e.json (Function.update heap ref obj) = e.json heap := by
  cases e with
  | value t => rfl
  | object ref' =>
    have hne : ref' ≠ ref := fun heq => h (heq ▸ rfl)
    show (Function.update heap ref obj ref').json = _
    rw [Function.update_of_ne hne]
    rfl

/-- A change of an object that is not stored does not show. -/
theorem doc_update_of_unstored {ref : Nat} {obj : StoredObject α}
    (h : ∀ name key, s.lookup name key ≠ some (.object ref)) :
    members (tableJson (Function.update s.heap ref obj)) s.data = members (tableJson s.heap) s.data := by
  unfold members
  apply List.map_congr_left
  intro table htable
  refine congrArg (Prod.mk table.1 <| DocTree.node ·) (List.map_congr_left fun entry hentry => ?_)
  have hget : s.lookup table.1 entry.1 = some entry.2 := by
    rw [State.lookup_of (Dict.get?_of_mem htable)]
    exact Dict.get?_of_mem hentry
  have hne : entry.2 ≠ .object ref := fun heq => h _ _ (heq ▸ hget)
  exact congrArg (Prod.mk entry.1) (json_update_of_ne hne)

/-- **An assignment to an object that is at home** is the patch it records. -/
theorem apply_replace_attr {ref : Nat} {name key field : Str} {value old : DocTree α}
    (hhome : AtHome s ref) (hpath : (s.heap ref).path = some (name, key)) (hname : Plain name)
    (hkey : Plain key) (hfield : Plain field) (hold : (s.heap ref).fields.get? field = some old) :
    apply s.doc (.replace (pointer [name, key, field]) value)
    = some (.node (members (tableJson (Function.update s.heap ref
        { s.heap ref with fields := (s.heap ref).fields.set field value })) s.data)) := by
  have hentry := (hhome name key).mpr hpath
  unfold State.lookup at hentry
  obtain ⟨entries, hentries, hobject⟩ := Option.bind_eq_some_iff.mp hentry
  have hmember : member? key (members (Entry.json s.heap) entries)
      = some (.node (members id (s.heap ref).fields)) := by
    rw [member?_members, hobject]
    rfl
  have hfields : field ∈ (members id (s.heap ref).fields).map Prod.fst :=
    (mem_members_iff id _ field).mpr (Dict.contains_iff.mpr ⟨old, hold⟩)
  show atMember _ _ (.node (members (tableJson s.heap) s.data)) = _
  rw [atMember_field hname hkey hfield (member?_doc s.heap hentries) hmember, if_pos hfields,
    Option.map_some]
  refine congrArg (some <| DocTree.node ·) ?_
  generalize hobj : ({ s.heap ref with fields := (s.heap ref).fields.set field value } :
    StoredObject α) = obj
  have hjson : Entry.json (Function.update s.heap ref obj) (.object ref)
      = .node (setMember field value (members id (s.heap ref).fields)) := by
    show (Function.update s.heap ref obj ref).json = _
    rw [Function.update_self, ← hobj]
    exact congrArg DocTree.node (setMember_members id _ field value).symm
  -- the object is in this entry of this table only, so nothing else of the document changes
  have htable : DocTree.node (setMember key (.node (setMember field value
      (members id (s.heap ref).fields))) (members (Entry.json s.heap) entries))
      = tableJson (Function.update s.heap ref obj) entries := by
    rw [← hjson]
    refine congrArg DocTree.node (setMember_change hobject fun key' e he hne => ?_)
    apply json_update_of_ne
    rintro rfl
    have hstored : s.lookup name key' = some (.object ref) := by
      rw [State.lookup_of hentries]
      exact he
    have := (hhome name key').mp hstored
    rw [hpath] at this
    cases this
    exact hne rfl
  rw [htable]
  refine setMember_change hentries fun name' entries' he hne => ?_
  unfold tableJson members
  refine congrArg DocTree.node (List.map_congr_left fun entry hmem => ?_)
  refine congrArg (Prod.mk entry.1) (json_update_of_ne ?_)
  intro heq
  have hstored : s.lookup name' entry.1 = some (.object ref) := by
    rw [State.lookup_of he, Dict.get?_of_mem hmem, heq]
  have := (hhome name' entry.1).mp hstored
  rw [hpath] at this
  cases this
  exact hne rfl

/-! ## The invariant -/

/-- Whether an object is at home shows in the tables. -/
theorem atHome_iff {ref : Nat} : AtHome s ref ↔
    (∀ table ∈ s.data.items, ∀ entry ∈ table.2.items, entry.2 = .object ref →
      (s.heap ref).path = some (table.1, entry.1)) ∧
    ∀ path, (s.heap ref).path = some path → s.lookup path.1 path.2 = some (.object ref) := by
  constructor
  · intro h
    refine ⟨fun table htable entry hentry href => (h _ _).mp ?_, fun path hpath => (h _ _).mpr hpath⟩
    rw [State.lookup_of (Dict.get?_of_mem htable), Dict.get?_of_mem hentry, href]
  · rintro ⟨hstored, hpath⟩ name key
    refine ⟨fun h => ?_, hpath (name, key)⟩
    obtain ⟨entries, hentries, hentry⟩ := Option.bind_eq_some_iff.mp h
    exact hstored _ (Dict.mem_of_get? hentries) _ (Dict.mem_of_get? hentry) rfl

instance [DecidableEq α] (ref : Nat) : Decidable (AtHome s ref) :=
  have : Decidable (∀ path, (s.heap ref).path = some path →
      s.lookup path.1 path.2 = some (.object ref)) :=
    inferInstanceAs (Decidable (∀ path ∈ (s.heap ref).path, _))
  decidable_of_iff' _ atHome_iff

/-- Names can be written into pointers as they are, the objects have been made, and swaps are
objects. -/
structure Tidy (s : State α) : Prop where
  names : ∀ name, s.data.contains name = true → Plain name
  keys : ∀ name key e, s.lookup name key = some e → Plain key
  refs : ∀ name key ref, s.lookup name key = some (.object ref) → ref < s.nextRef
  swaps : ∀ key e, s.lookup SWAPS key = some e → ∃ ref, e = .object ref

/-- The pending patches lead from `t` to the live document. -/
structure Replays (t : DocTree α) (s : State α) : Prop where
  applies : applyAll t s.pendingChanges = some s.doc
  dirty : s.pendingChanges ≠ [] → s.modified = true

/-- The keys are hex texts and names of attributes, the objects exist, and the table of swaps holds
swaps. -/
def Proper (s : State α) : Action α → Prop
  | .getDict name => Plain name
  | .setItem name key v => Plain key ∧ (∀ ref, v = .object ref → ref < s.nextRef) ∧
      (name = SWAPS → ∃ ref, v = .object ref)
  | .setAttr _ field _ => Plain field
  | _ => True

/-- No object is changed that is not at home. -/
def Homely (s : State α) : Action α → Prop
  | .setAttr ref field value => (s.heap ref).fields.get? field = some value ∨ AtHome s ref
  | _ => True

def Allowed (s : State α) (a : Action α) : Prop := Proper s a ∧ Homely s a

theorem proper_setItem_iff {name key : Str} {v : Entry α} : Proper s (.setItem name key v) ↔
    match v with
    | .value _ => Plain key ∧ name ≠ SWAPS
    | .object ref => Plain key ∧ ref < s.nextRef := by
  cases v with
  | value t => simp [Proper]
  | object ref => simp [Proper]

instance : ∀ a : Action α, Decidable (Proper s a)
  | .getDict name => inferInstanceAs (Decidable (Plain name))
  | .setItem _ _ (.value _) => @decidable_of_iff' _ _ proper_setItem_iff inferInstance
  | .setItem _ _ (.object _) => @decidable_of_iff' _ _ proper_setItem_iff inferInstance
  | .setAttr _ field _ => inferInstanceAs (Decidable (Plain field))
  | .pop .. | .construct _ | .write _ | .restart => .isTrue trivial

instance [DecidableEq α] : ∀ a : Action α, Decidable (Allowed s a)
  | .setAttr ref field value =>
    inferInstanceAs (Decidable (_ ∧ ((s.heap ref).fields.get? field = some value ∨ AtHome s ref)))
  | .getDict _ | .setItem .. | .pop .. | .construct _ | .write _ | .restart =>
    inferInstanceAs (Decidable (_ ∧ True))

theorem Replays.addPatch {t : DocTree α} {s s' : State α} {p : Patch α} (h : Replays t s)
    (hpending : s'.pendingChanges = s.pendingChanges) (hp : apply s.doc p = some s'.doc) :
    Replays t (s'.addPatch p) where
  applies := by
    show applyAll t (s'.pendingChanges ++ [p]) = some s'.doc
    rw [hpending, applyAll_concat, h.applies]
    exact hp
  dirty _ := rfl

section Steps

variable {name key : Str} {entries : Dict Str (Entry α)} {v : Entry α}

/-- A table under a name: what is under the keys then. -/
theorem lookup_setTable {s' : State α} {entries' : Dict Str (Entry α)}
    (hdata : s'.data = s.data.set name entries') (n k : Str) :
    s'.lookup n k = if n = name then entries'.get? k else s.lookup n k := by
  unfold State.lookup
  rw [hdata, Dict.get?_set]
  split
  · rfl
  · rfl

/-- What a new table holds was there before or is the new item. -/
theorem Tidy.setTable {s' : State α} {entries' : Dict Str (Entry α)} (h : Tidy s)
    (hdata : s'.data = s.data.set name entries') (hname : Plain name)
    (hnext : s'.nextRef = s.nextRef)
    (hitems : ∀ k e, entries'.get? k = some e → s.lookup name k = some e ∨
      Plain k ∧ (∀ ref, e = .object ref → ref < s.nextRef) ∧ (name = SWAPS → ∃ ref, e = .object ref)) :
    Tidy s' := by
  have hentry : ∀ n k e, s'.lookup n k = some e → s.lookup n k = some e ∨ Plain k ∧
      (∀ ref, e = .object ref → ref < s.nextRef) ∧ (n = SWAPS → ∃ ref, e = .object ref) := by
    intro n k e he
    rw [lookup_setTable hdata] at he
    split at he
    · next hn =>
      rw [hn]
      exact hitems k e he
    · exact .inl he
  constructor
  · intro n hn
    rw [hdata] at hn
    rcases Dict.contains_set hn with rfl | hn
    · exact hname
    · exact h.names n hn
  · intro n k e he
    rcases hentry n k e he with he | ⟨hk, -⟩
    · exact h.keys n k e he
    · exact hk
  · intro n k ref he
    rw [hnext]
    rcases hentry n k _ he with he | ⟨-, href, -⟩
    · exact h.refs n k ref he
    · exact href ref rfl
  · intro k e he
    rcases hentry SWAPS k e he with he | ⟨-, -, hswap⟩
    · exact h.swaps k e he
    · exact hswap rfl

theorem Tidy.of_data {s' : State α} (h : Tidy s) (hdata : s'.data = s.data)
    (hnext : s.nextRef ≤ s'.nextRef) : Tidy s' := by
  have hentry : ∀ n k, s'.lookup n k = s.lookup n k := by
    intro n k
    unfold State.lookup
    rw [hdata]
  refine ⟨fun n hn => h.names n (hdata ▸ hn), fun n k e he => h.keys n k e (hentry n k ▸ he),
    fun n k ref he => ?_, fun k e he => h.swaps k e (hentry SWAPS k ▸ he)⟩
  have := h.refs n k ref (hentry n k ▸ he)
  omega

theorem Tidy.plain_name (h : Tidy s) (hget : s.data.get? name = some entries) : Plain name :=
  h.names name (Dict.contains_iff.mpr ⟨entries, hget⟩)

variable [DecidableEq α]

/-- What a step of the process leaves as it is, and what it keeps. -/
structure Stays (t : DocTree α) (s s' : State α) : Prop where
  tidy : Tidy s'
  replays : Replays t s'
  storage : s'.storage = s.storage
  modified : s.modified = true → s'.modified = true

omit [DecidableEq α] in
theorem stays_getDict {t : DocTree α} (htidy : Tidy s) (hreplays : Replays t s) (hname : Plain name) :
    Stays t s (s.getDict name) := by
  unfold State.getDict
  split
  · exact ⟨htidy, hreplays, rfl, id⟩
  · refine ⟨htidy.setTable rfl hname rfl fun k e he => ?_, hreplays.addPatch rfl ?_, rfl, fun _ => rfl⟩
    · cases he
    · exact apply_add_table hname

theorem stays_setItem {t : DocTree α} (htidy : Tidy s) (hreplays : Replays t s)
    (hproper : Proper s (.setItem name key v)) : Stays t s (s.setItem name key v) := by
  obtain ⟨hkey, href, hswap⟩ := hproper
  unfold State.setItem
  cases hentries : s.data.get? name with
  | none => exact ⟨htidy, hreplays, rfl, id⟩
  | some entries =>
    have hname := htidy.plain_name hentries
    -- whichever patch is queued, the table and the object are the new ones
    have hnew : ∀ p, apply s.doc p = some (.node (members (tableJson s.heap)
          (s.data.set name (entries.set key v)))) →
        Stays t s (State.addPatch p { s with
          data := s.data.set name (entries.set key v), heap := setDb (name, key) v s.heap }) := by
      intro p hp
      refine ⟨htidy.setTable rfl hname rfl fun k e he => ?_, hreplays.addPatch rfl ?_, rfl,
        fun _ => rfl⟩
      · rw [Dict.get?_set] at he
        split at he
        · next hk =>
          cases he
          exact .inr ⟨hk ▸ hkey, href, hswap⟩
        · left
          rw [State.lookup_of hentries]
          exact he
      · rw [hp]
        unfold State.doc
        rw [tableJson_setDb]
    dsimp only
    cases hold : entries.get? key with
    | none => exact hnew _ (apply_add_item hname hkey hentries)
    | some old =>
      dsimp only
      split
      · exact ⟨htidy, hreplays, rfl, id⟩
      · exact hnew _ (apply_replace_item hname hkey hentries (Dict.contains_iff.mpr ⟨old, hold⟩))

omit [DecidableEq α] in
theorem stays_pop {t : DocTree α} (htidy : Tidy s) (hreplays : Replays t s) (name key : Str) :
    Stays t s (s.pop name key) := by
  unfold State.pop
  cases hentries : s.data.get? name with
  | none => exact ⟨htidy, hreplays, rfl, id⟩
  | some entries =>
    have hname := htidy.plain_name hentries
    dsimp only
    split
    · next hcontains =>
      obtain ⟨e, he⟩ := Dict.contains_iff.mp hcontains
      have hkey : Plain key := by
        apply htidy.keys name key e
        rw [State.lookup_of hentries]
        exact he
      refine ⟨htidy.setTable rfl hname rfl fun k e he => ?_, hreplays.addPatch rfl ?_, rfl,
        fun _ => rfl⟩
      · left
        rw [State.lookup_of hentries]
        exact (Dict.get?_of_pop he).2
      · exact apply_remove_item hname hkey hentries hcontains
    · exact ⟨htidy, hreplays, rfl, id⟩

theorem stays_setAttr {t : DocTree α} {ref : Nat} {field : Str} {value : DocTree α} (htidy : Tidy s)
    (hreplays : Replays t s) (hallowed : Allowed s (.setAttr ref field value)) :
    Stays t s (s.setAttr ref field value) := by
  unfold State.setAttr
  dsimp only
  cases hold : (s.heap ref).fields.get? field with
  | none => exact ⟨htidy, hreplays, rfl, id⟩
  | some old =>
    dsimp only
    by_cases hsame : value = old
    · rw [if_pos hsame]
      exact ⟨htidy, hreplays, rfl, id⟩
    · rw [if_neg hsame]
      obtain ⟨hfield, hhome⟩ := hallowed
      have hhome : AtHome s ref := by
        rcases hhome with heq | hhome
        · rw [hold] at heq
          cases heq
          exact absurd rfl hsame
        · exact hhome
      cases hpath : (s.heap ref).path with
      | none =>
        refine ⟨htidy.of_data rfl (Nat.le_refl _), ⟨?_, hreplays.dirty⟩, rfl, id⟩
        rw [hreplays.applies]
        refine congrArg (some <| DocTree.node ·) (doc_update_of_unstored fun n k he => ?_).symm
        rw [(hhome n k).mp he] at hpath
        cases hpath
      | some path =>
        obtain ⟨n, k⟩ := path
        have hentry := (hhome n k).mpr hpath
        obtain ⟨entries, hentries, -⟩ := Option.bind_eq_some_iff.mp hentry
        refine ⟨htidy.of_data rfl (Nat.le_refl _), hreplays.addPatch rfl ?_, rfl, fun _ => rfl⟩
        refine (apply_replace_attr hhome hpath (htidy.plain_name hentries) (htidy.keys n k _ hentry)
          hfield hold).trans ?_
        simp only [hpath]
        rfl

omit [DecidableEq α] in
theorem stays_construct {t : DocTree α} (htidy : Tidy s) (hreplays : Replays t s)
    (fields : Dict Str (DocTree α)) : Stays t s (s.construct fields) := by
  refine ⟨htidy.of_data rfl (Nat.le_succ _), ⟨?_, hreplays.dirty⟩, rfl, id⟩
  show applyAll t s.pendingChanges = _
  rw [hreplays.applies]
  refine congrArg (some <| DocTree.node ·) (doc_update_of_unstored fun n k he => ?_).symm
  exact Nat.lt_irrefl _ (htidy.refs n k _ he)

end Steps

/-! ## Reading the content -/

/-- Appended patches are read behind the ones that are there. -/
theorem readPatches_append {rest : Content α} {p : List (Patch α)} (h : readPatches rest = some p)
    (q : List (Patch α)) : readPatches (rest ++ joinPatches q) = some (p ++ q) := by
  induction rest using readPatches.induct generalizing p with
  | case1 =>
    cases h
    induction q with
    | nil => rfl
    | cons a q ih =>
      show (readPatches ([] ++ joinPatches q)).map (a :: ·) = _
      rw [ih]
      rfl
  | case2 a rest ih =>
    unfold readPatches at h
    obtain ⟨p', hp', rfl⟩ := Option.map_eq_some_iff.mp h
    show (readPatches (rest ++ joinPatches q)).map (a :: ·) = _
    rw [ih hp']
    rfl
  | case3 rest hnil hcons =>
    unfold readPatches at h
    split at h
    · exact absurd rfl hnil
    · exact absurd rfl (hcons _ _)
    · cases h

/-- The content begins with a document. -/
def Based (content : Content α) : Prop :=
  ∃ tables rest, content = .document (.node tables) :: rest

/-- **What has been appended is applied to what is loaded.** -/
theorem loadData_append {content : Content α} {t : DocTree α} (hbased : Based content)
    (h : loadData content = some t) (q : List (Patch α)) :
    loadData (content ++ joinPatches q) = applyAll t q := by
  obtain ⟨tables, rest, rfl⟩ := hbased
  show (readPatches (rest ++ joinPatches q)).bind (applyAll (.node tables)) = _
  unfold loadData at h
  obtain ⟨p, hp, happly⟩ := Option.bind_eq_some_iff.mp h
  rw [readPatches_append hp, Option.bind_some, applyAll_append, happly]
  rfl

/-- The store is in order: its content loads, to the document as of the last write, and the pending
patches lead on from there. -/
structure Coherent (o : Observed α) : Prop where
  tidy : Tidy o.state
  replays : Replays o.written o.state
  based : Based o.state.storage.content
  loads : loadData o.state.storage.content = some o.written
  origin : ∃ s, Tidy s ∧ s.doc = o.written

/-! ## A new process -/

theorem items_ofItems {β : Type} {l : List (Str × β)} (h : (l.map Prod.fst).Nodup) :
    (ofItems l).items = l := by
  have hfold : ∀ (l : List (Str × β)) (d : Dict Str β), (l.map Prod.fst).Nodup →
      (∀ p ∈ l, p.1 ∉ d.keys) →
      (l.foldl (fun d p => d.set p.1 p.2) d).items = d.items ++ l := by
    intro l
    induction l with
    | nil => intro d _ _; simp
    | cons p l ih =>
      intro d hnodup hnew
      obtain ⟨hp, hl⟩ := List.nodup_cons.mp hnodup
      have hset : (d.set p.1 p.2).items = d.items ++ [p] := by
        unfold Dict.set
        rw [dif_neg (hnew p List.mem_cons_self)]
      rw [List.foldl_cons, ih _ hl, hset, List.append_assoc]
      · rfl
      · intro q hq hmem
        unfold Dict.keys at hmem
        rw [hset, List.map_append, List.mem_append] at hmem
        rcases hmem with hmem | hmem
        · exact hnew q (List.mem_cons_of_mem p hq) hmem
        · have heq : q.1 = p.1 := by simpa using hmem
          exact hp (heq ▸ List.mem_map_of_mem hq)
  have := hfold l ∅ h fun p _ hmem => by cases hmem
  rw [ofItems, this]
  rfl

/-- An object that has just been read is written as it was. -/
theorem members_ofItems {l : List (Str × DocTree α)} (h : (l.map Prod.fst).Nodup) :
    members id (ofItems l) = l := by
  unfold members
  rw [items_ofItems h]
  simp

theorem nodup_members {β : Type} (json : β → DocTree α) (d : Dict Str β) :
    ((members json d).map Prod.fst).Nodup := by
  have hkeys : (members json d).map Prod.fst = d.items.map Prod.fst := by
    unfold members
    rw [List.map_map]
    rfl
  rw [hkeys]
  exact d.nodup

section Reading

variable {name key : Str} {entries : Dict Str (Entry α)} {printer : Printer α}
variable {content : Content α}

theorem nodup_readTable (name : Str) (table : DocTree α) (h : ((membersOf table).map Prod.fst).Nodup) :
    (readTable name table).items = if name = SWAPS
      then (membersOf table).zipIdx.map fun p => (p.1.1, Entry.object p.2)
      else (membersOf table).map fun p => (p.1, Entry.value p.2) := by
  unfold readTable
  split
  · apply items_ofItems
    rw [List.map_map]
    have hkeys : (membersOf table).zipIdx.map
          (Prod.fst ∘ fun p => (p.1.1, (Entry.object p.2 : Entry α)))
        = (membersOf table).map Prod.fst := by
      rw [show (Prod.fst ∘ fun p : (Str × DocTree α) × Nat => (p.1.1, (Entry.object p.2 : Entry α)))
        = Prod.fst ∘ Prod.fst from rfl, ← List.map_map, List.zipIdx_map_fst]
    rw [hkeys]
    exact h
  · apply items_ofItems
    rw [List.map_map]
    exact h

/-- The `n`-th swap of a document of the process. -/
theorem swapAt_doc (hentries : s.data.get? SWAPS = some entries) (n : Nat) :
    swapAt s.doc n = (members (Entry.json s.heap) entries)[n]? := by
  unfold swapAt State.doc membersOf
  dsimp only
  rw [member?_doc s.heap hentries]
  rfl

/-- A table that has been read is written as it was. -/
theorem tableJson_readTable (htidy : Tidy s) (hentries : s.data.get? name = some entries) :
    tableJson (State.ofDocument printer content s.doc).heap (readTable name (tableJson s.heap entries))
      = tableJson s.heap entries := by
  have hnodup : ((members (Entry.json s.heap) entries).map Prod.fst).Nodup := nodup_members _ _
  have hitems := nodup_readTable name (tableJson s.heap entries) hnodup
  refine congrArg DocTree.node ?_
  show (readTable name (tableJson s.heap entries)).items.map _ = members (Entry.json s.heap) entries
  rw [hitems]
  split
  · next hname =>
    subst hname
    rw [List.map_map]
    calc _ = (members (Entry.json s.heap) entries).zipIdx.map Prod.fst := ?_
      _ = members (Entry.json s.heap) entries := List.zipIdx_map_fst ..
    refine List.map_congr_left fun p hp => ?_
    have hat := (swapAt_doc hentries p.2).trans (List.mem_zipIdx_iff_getElem?.mp hp)
    -- the swap is an object with named fields
    obtain ⟨item, hitem, hjson⟩ : ∃ item ∈ entries.items, (item.1, item.2.json s.heap) = p.1 :=
      List.mem_map.mp (List.mem_of_getElem? (List.mem_zipIdx_iff_getElem?.mp hp))
    have hentry : s.lookup SWAPS item.1 = some item.2 := by
      rw [State.lookup_of hentries]
      exact Dict.get?_of_mem hitem
    obtain ⟨ref, href⟩ := htidy.swaps _ _ hentry
    have hswap : p.1.2 = .node (members id (s.heap ref).fields) := by
      rw [← hjson, href]
      rfl
    have hread : ((State.ofDocument printer content s.doc).heap p.2).json = p.1.2 := by
      unfold State.ofDocument
      dsimp only
      rw [hat]
      show DocTree.node (members id (ofItems (membersOf p.1.2))) = _
      rw [hswap]
      exact congrArg DocTree.node (members_ofItems (nodup_members id _))
    exact Prod.ext rfl hread
  · rw [List.map_map]
    exact List.map_id' _

theorem items_ofDocument (printer : Printer α) (content : Content α) (s : State α) :
    (State.ofDocument printer content s.doc).data.items
      = s.data.items.map fun p => (p.1, readTable p.1 (tableJson s.heap p.2)) := by
  have hnames : ((members (tableJson s.heap) s.data).map fun table : Str × DocTree α =>
      (table.1, readTable table.1 table.2)).map Prod.fst = s.data.items.map Prod.fst := by
    unfold members
    rw [List.map_map, List.map_map]
    rfl
  show (ofItems ((members (tableJson s.heap) s.data).map _)).items = _
  rw [items_ofItems (hnames ▸ s.data.nodup)]
  unfold members
  rw [List.map_map]
  rfl

/-- **The document of a new process is the one that was loaded.** -/
theorem doc_ofDocument (htidy : Tidy s) : (State.ofDocument printer content s.doc).doc = s.doc := by
  refine congrArg DocTree.node ?_
  show (State.ofDocument printer content s.doc).data.items.map _ = s.data.items.map _
  rw [items_ofDocument, List.map_map]
  apply List.map_congr_left
  intro p hp
  exact congrArg (Prod.mk p.1) (tableJson_readTable htidy (Dict.get?_of_mem hp))

theorem get?_ofDocument {entries' : Dict Str (Entry α)}
    (h : (State.ofDocument printer content s.doc).data.get? name = some entries') :
    ∃ entries, s.data.get? name = some entries ∧
      entries' = readTable name (tableJson s.heap entries) := by
  have hmem := Dict.mem_of_get? h
  rw [items_ofDocument] at hmem
  obtain ⟨p, hp, heq⟩ := List.mem_map.mp hmem
  cases heq
  exact ⟨p.2, Dict.get?_of_mem hp, rfl⟩

/-- What a new process finds under a key. -/
theorem lookup_ofDocument {e : Entry α}
    (h : (State.ofDocument printer content s.doc).lookup name key = some e) :
    (∃ old, s.lookup name key = some old) ∧
      (name = SWAPS → ∃ ref, e = .object ref) ∧
      ∀ ref, e = .object ref → ref < (State.ofDocument printer content s.doc).nextRef := by
  obtain ⟨entries', hentries', he⟩ := Option.bind_eq_some_iff.mp h
  obtain ⟨entries, hentries, rfl⟩ := get?_ofDocument hentries'
  have hnodup : ((members (Entry.json s.heap) entries).map Prod.fst).Nodup := nodup_members _ _
  have hmem := Dict.mem_of_get? he
  rw [nodup_readTable name (tableJson s.heap entries) hnodup] at hmem
  have hold : ∀ q ∈ members (Entry.json s.heap) entries, ∃ old, s.lookup name q.1 = some old := by
    intro q hq
    obtain ⟨p, hp, rfl⟩ := List.mem_map.mp hq
    refine ⟨p.2, ?_⟩
    rw [State.lookup_of hentries]
    exact Dict.get?_of_mem hp
  split at hmem
  · next hname =>
    obtain ⟨p, hp, heq⟩ := List.mem_map.mp hmem
    cases heq
    have hat := List.mem_zipIdx_iff_getElem?.mp hp
    refine ⟨hold p.1 (List.mem_of_getElem? hat), fun _ => ⟨p.2, rfl⟩, fun ref href => ?_⟩
    cases href
    subst hname
    have hlen : (State.ofDocument printer content s.doc).nextRef
        = (members (Entry.json s.heap) entries).length := by
      have hswaps : member? SWAPS (membersOf s.doc) = some (tableJson s.heap entries) :=
        member?_doc s.heap hentries
      unfold State.ofDocument
      dsimp only
      rw [hswaps]
      rfl
    rw [hlen]
    exact (List.getElem?_eq_some_iff.mp hat).1
  · next hname =>
    obtain ⟨p, hp, heq⟩ := List.mem_map.mp hmem
    cases heq
    exact ⟨hold p hp, fun hswaps => absurd hswaps hname, fun ref href => by cases href⟩

theorem tidy_ofDocument (h : Tidy s) : Tidy (State.ofDocument printer content s.doc) where
  names n hn := by
    obtain ⟨entries', hget⟩ := Dict.contains_iff.mp hn
    obtain ⟨entries, hentries, -⟩ := get?_ofDocument hget
    exact h.plain_name hentries
  keys n k e he := by
    obtain ⟨⟨old, hold⟩, -⟩ := lookup_ofDocument he
    exact h.keys n k old hold
  refs n k ref he := (lookup_ofDocument he).2.2 ref rfl
  swaps k e he := (lookup_ofDocument he).2.1 rfl

/-- The process writes well-formed documents. -/
theorem wellFormed_doc (h : Tidy s) : wellFormed s.doc = true := by
  show (members (tableJson s.heap) s.data).all _ = true
  apply List.all_eq_true.mpr
  intro table htable
  obtain ⟨p, hp, rfl⟩ := List.mem_map.mp htable
  by_cases hname : p.1 = SWAPS
  · refine (Bool.or_eq_true _ _).mpr (.inr ?_)
    apply List.all_eq_true.mpr
    intro entry hentry
    obtain ⟨q, hq, rfl⟩ := List.mem_map.mp hentry
    have hget : s.lookup SWAPS q.1 = some q.2 := by
      rw [State.lookup_of (hname ▸ Dict.get?_of_mem hp)]
      exact Dict.get?_of_mem hq
    obtain ⟨ref, href⟩ := h.swaps q.1 q.2 hget
    rw [href]
    rfl
  · exact (Bool.or_eq_true _ _).mpr (.inl (decide_eq_true hname))

end Reading

/-! ## Every run -/

section Runs

variable [DecidableEq α] {printer : Printer α} {human_readable : Bool} {o o' : Observed α}

omit [DecidableEq α] in
theorem Stays.coherent {s' : State α} (h : Coherent o) (hs : Stays o.written o.state s') :
    Coherent { state := s', written := o.written } where
  tidy := hs.tidy
  replays := hs.replays
  based := hs.storage ▸ h.based
  loads := hs.storage ▸ h.loads
  origin := h.origin

omit [DecidableEq α] in
/-- A write that goes through. -/
theorem coherent_write (h : Coherent o) :
    Coherent { state := o.state.write printer human_readable true
               written := (o.state.write printer human_readable true).doc } := by
  have hnothing : o.state.pendingChanges = [] → o.written = o.state.doc := by
    intro hnone
    have := h.replays.applies
    rw [hnone] at this
    exact Option.some.inj this
  have hidle : o.state.pendingChanges = [] → Coherent { state := o.state, written := o.state.doc } := by
    intro hnone
    rw [← hnothing hnone]
    exact h
  unfold State.write
  simp only [Bool.and_true]
  split
  · split
    · exact ⟨h.tidy.of_data rfl (Nat.le_refl _), ⟨rfl, fun hne => absurd rfl hne⟩, ⟨_, [], rfl⟩, rfl,
        o.state, h.tidy, rfl⟩
    · next hclean =>
      apply hidle
      by_contra hne
      exact hclean (h.replays.dirty hne)
  · split
    · refine ⟨h.tidy.of_data rfl (Nat.le_refl _), ⟨rfl, fun hne => absurd rfl hne⟩, ?_, ?_, o.state,
        h.tidy, rfl⟩
      · obtain ⟨tables, rest, hcontent⟩ := h.based
        refine ⟨tables, rest ++ joinPatches o.state.pendingChanges, ?_⟩
        show o.state.storage.content ++ _ = _
        rw [hcontent]
        rfl
      · exact (loadData_append h.based h.loads _).trans h.replays.applies
    · next hempty =>
      apply hidle
      simpa using hempty

omit [DecidableEq α] in
/-- One that fails changes nothing. -/
theorem write_fails (s : State α) : s.write printer human_readable false = s := by
  unfold State.write
  simp

omit [DecidableEq α] in
/-- **A restart leads to the document as of the last write**, wherever the process was. -/
theorem open_written (h : Coherent o) :
    ∃ s, State.open printer o.state.storage.content = some s ∧ s.doc = o.written ∧
      Coherent { state := s, written := o.written } := by
  obtain ⟨s₀, htidy, hdoc⟩ := h.origin
  have hwell : wellFormed o.written = true := by
    rw [← hdoc]
    exact wellFormed_doc htidy
  refine ⟨State.ofDocument printer o.state.storage.content o.written, ?_, ?_, ⟨?_, ⟨?_, ?_⟩, h.based,
    h.loads, h.origin⟩⟩
  · unfold State.open
    rw [h.loads]
    exact if_pos hwell
  · rw [← hdoc]
    exact doc_ofDocument htidy
  · show Tidy (State.ofDocument printer o.state.storage.content o.written)
    rw [← hdoc]
    exact tidy_ofDocument htidy
  · show some o.written = some (State.ofDocument printer o.state.storage.content o.written).doc
    rw [← hdoc, doc_ofDocument htidy]
  · exact fun hne => absurd rfl hne

omit [DecidableEq α] in
theorem Tidy.blank : Tidy (State.ofDocument printer [] (.node [] : DocTree α)) where
  names name h := by cases h
  keys name key e h := by cases h
  refs name key ref h := by cases h
  swaps key e h := by cases h

/-- The steps that change the live data. -/
def Action.changes : Action α → Bool
  | .write _ => false
  | .restart => false
  | _ => true

/-- **A change of the live data and the patch it queues.** -/
theorem stays_step {t : DocTree α} {a : Action α} (htidy : Tidy s) (hreplays : Replays t s)
    (ha : Allowed s a) (hchanges : a.changes = true) :
    Stays t s (step printer human_readable a s) := by
  cases a with
  | getDict name => exact stays_getDict htidy hreplays ha.1
  | setItem name key v => exact stays_setItem htidy hreplays ha.1
  | pop name key => exact stays_pop htidy hreplays name key
  | setAttr ref field value => exact stays_setAttr htidy hreplays ha
  | construct fields => exact stays_construct htidy hreplays fields
  | write answers => cases hchanges
  | restart => cases hchanges

/-- **Every step keeps the store in order.** -/
theorem coherent_observe {a : Action α} (ha : Allowed o.state a) (h : Coherent o) :
    Coherent (observe printer human_readable a o) := by
  cases a with
  | getDict name => exact (stays_step h.tidy h.replays ha rfl).coherent h
  | setItem name key v => exact (stays_step h.tidy h.replays ha rfl).coherent h
  | pop name key => exact (stays_step h.tidy h.replays ha rfl).coherent h
  | setAttr ref field value => exact (stays_step h.tidy h.replays ha rfl).coherent h
  | construct fields => exact (stays_step h.tidy h.replays ha rfl).coherent h
  | write answers =>
    cases answers with
    | true => exact coherent_write h
    | false =>
      show Coherent { state := o.state.write printer human_readable false, written := o.written }
      rw [write_fails]
      exact h
  | restart =>
    have hopen : ∃ s, State.open printer _ = some s ∧ s.doc = _ ∧ Coherent _ := open_written h
    obtain ⟨s, hopen, -, hs⟩ := hopen
    show Coherent { state := (State.open printer o.state.storage.content).getD o.state
                    written := o.written }
    rw [hopen]
    exact hs

/-- The steps that are allowed, with the observer. -/
def Permitted (o : Observed α) (a : Action α) : Prop := Allowed o.state a

instance (o : Observed α) (a : Action α) : Decidable (Permitted o a) :=
  inferInstanceAs (Decidable (Allowed o.state a))

/-- The content of the datastore is a document that a process has written as a whole, and a new process
has just read it. -/
def Fresh (printer : Printer α) (o : Observed α) : Prop :=
  ∃ s, Tidy s ∧ o = { state := .ofDocument printer [.document s.doc] s.doc, written := s.doc }

omit [DecidableEq α] in
theorem coherent_fresh (h : Fresh printer o) : Coherent o := by
  obtain ⟨s, htidy, rfl⟩ := h
  refine ⟨tidy_ofDocument htidy, ⟨?_, fun hne => absurd rfl hne⟩, ⟨_, [], rfl⟩, rfl, s, htidy, rfl⟩
  show some s.doc = some (State.ofDocument printer [.document s.doc] s.doc).doc
  rw [doc_ofDocument htidy]

theorem coherent_run (hstart : Fresh printer o)
    (h : Run (observe printer human_readable) Permitted o o') : Coherent o' := by
  have hstep : ∀ t a, Permitted t a → Coherent t → Coherent (observe printer human_readable a t) :=
    fun _ _ => coherent_observe
  exact h.invariant hstep (coherent_fresh hstart)

/-- **The patch log replays to the document**: in every run in which no swap object is changed that is
not at home, the content of the datastore loads, to the document as of the last write. -/
theorem patchLog_replays (hstart : Fresh printer o)
    (h : Run (observe printer human_readable) Permitted o o') :
    loadData o'.state.storage.content = some o'.written :=
  (coherent_run hstart h).loads

end Runs

/-! ## One swap -/

namespace Sample

mutual

/-- The length of a document that is not indented and has texts for its values. -/
def treeLen : DocTree Str → Nat
  | .leaf a => a.length + 2
  | .node ms => 2 + membersLen ms

/-- `"name": value`, with a comma and a blank between two of them. -/
def membersLen : List (Str × DocTree Str) → Nat
  | [] => 0
  | [(name, t)] => name.length + 4 + treeLen t
  | (name, t) :: ms => name.length + 4 + treeLen t + 2 + membersLen ms

end

/-- A patch is an object with the operation, the path and the value. -/
def patchTree (op : String) (path : Str) (value : List (Str × DocTree Str)) : DocTree Str :=
  .node ([("op".toList, .leaf op.toList), ("path".toList, .leaf path)] ++ value)

def pieceLen : Piece Str → Nat
  | .document t => treeLen t
  | .patch (.add path v) => treeLen (patchTree "add" path [("value".toList, v)])
  | .patch (.replace path v) => treeLen (patchTree "replace" path [("value".toList, v)])
  | .patch (.remove path) => treeLen (patchTree "remove" path [])
  | .separator => 2

theorem treeLen_pos (t : DocTree Str) : 0 < treeLen t := by
  cases t with
  | leaf a =>
    unfold treeLen
    omega
  | node ms =>
    unfold treeLen
    omega

def printer : Printer Str where
  len := pieceLen
  len_pos p := by
    cases p with
    | document t => exact treeLen_pos t
    | patch p => cases p <;> exact treeLen_pos _
    | separator => exact Nat.two_pos

def key : Str := "ab12".toList

def FUNDING_TXID : Str := "funding_txid".toList

/-- The first swap of a process, as it is stored. -/
def storeSwap : List (Action Str) :=
  [.getDict SWAPS, .construct (ofItems [(FUNDING_TXID, .leaf [])]), .setItem SWAPS key (.object 0)]

/-- A process on a datastore with nothing in it. -/
def blank : State Str := .ofDocument printer [] (.node [])

/-- A process that has found one swap. -/
def found : Observed Str :=
  let s := storeSwap.foldl (fun s a => step printer false a s) blank
  { state := .ofDocument printer [.document s.doc] s.doc, written := s.doc }

theorem fresh_found : Fresh printer found := by
  refine ⟨_, ?_, rfl⟩
  have h : ∀ l : List (Action Str), ∀ s, Tidy s → Replays (.node []) s →
      Allows (step printer false) (fun s a => Allowed s a ∧ a.changes = true) s l →
      Tidy (l.foldl (fun s a => step printer false a s) s) := by
    intro l
    induction l with
    | nil =>
      intro s htidy _ _
      exact htidy
    | cons a l ih =>
      intro s htidy hreplays hallows
      have hs : Stays _ s (step printer false a s) :=
        stays_step htidy hreplays hallows.1.1 hallows.1.2
      exact ih _ hs.tidy hs.replays hallows.2
  exact h storeSwap blank .blank ⟨rfl, fun hne => absurd rfl hne⟩ (by decide +kernel)

/-- The funding transaction of the swap is noted. -/
def fund : Action Str := .setAttr 0 FUNDING_TXID (.leaf "ff".toList)

def after (actions : List (Action Str)) : Observed Str :=
  actions.foldl (fun o a => observe printer false a o) found

/-- The swap is taken out before its funding transaction is noted. -/
theorem patchLog_popped : ∃ o o' : Observed Str, Fresh printer o ∧
    Run (observe printer false) (fun o a => Proper o.state a) o o' ∧
    loadData o'.state.storage.content = none := by
  have hallows : Allows (observe printer false) (fun o a => Proper o.state a) found
      [.pop SWAPS key, fund, .write true] := by decide +kernel
  exact ⟨found, after _, fresh_found, .of_allows .refl hallows, by decide +kernel⟩

/-- Here it is noted while the swap is stored, the plugin is started anew, and the swap is taken out. -/
theorem patchLog_replays_fund :
    loadData (after [fund, .write true, .restart, .pop SWAPS key]).state.storage.content
      = some (after [fund, .write true, .restart, .pop SWAPS key]).written := by
  have hallows : Allows (observe printer false) Permitted found
      [fund, .write true, .restart, .pop SWAPS key] := by decide +kernel
  exact patchLog_replays fresh_found (.of_allows .refl hallows)

end Sample

end SubswapProvider.JsonDb
