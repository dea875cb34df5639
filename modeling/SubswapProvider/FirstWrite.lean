import SubswapProvider.PatchLog

/-!
# The first write

A datastore in which there is nothing has no document for patches to stand behind. `CLNStorage` counts
from an empty text, so the first write finds no need to write the document as a whole and appends what
is pending: the content then begins with a separator, and is no list of values. The next write puts it
right, because any text is longer than twice the empty one, and from there on the content always loads.

So the life of a new store has three stages: nothing has been written (`Unwritten`), only patches have been
written (`Headless`), and a document has been written (`Coherent`). Which one it is in shows in what a
write does (`write_loads_iff`), and in what a restart finds (`restart_written_iff`).
-/

namespace SubswapProvider.JsonDb

open JsonPatch Effect

section Stages

variable {α : Type} {printer : Printer α} {s : State α}

theorem Printer.length_append (printer : Printer α) (l m : Content α) :
    printer.length (l ++ m) = printer.length l + printer.length m := by
  unfold Printer.length
  rw [List.map_append, List.sum_append]

theorem Printer.length_pos (printer : Printer α) {l : Content α} (h : l ≠ []) :
    0 < printer.length l := by
  cases l with
  | nil => exact absurd rfl h
  | cons p l =>
    have := printer.len_pos p
    unfold Printer.length
    rw [List.map_cons, List.sum_cons]
    omega

/-- A new process comes up with the live document as it is now. -/
def Loads (printer : Printer α) (s : State α) : Prop :=
  ∃ s', State.open printer s.storage.content = some s' ∧ s'.doc = s.doc

/-! ## Three stages -/

/-- Nothing is in the datastore. -/
structure Unwritten (s : State α) : Prop where
  tidy : Tidy s
  replays : Replays (.node []) s
  content : s.storage.content = []
  pos : s.storage.pos = 0
  initPos : s.storage.initPos = 0

/-- The datastore has patches and no document. -/
structure Headless (s : State α) : Prop where
  tidy : Tidy s
  replays : ∃ t, Replays t s
  content : ∃ rest, s.storage.content = .separator :: rest
  pos : 0 < s.storage.pos
  initPos : s.storage.initPos = 0
  modified : s.modified = true

/-- The datastore has a document with patches behind it. -/
def Written (s : State α) : Prop := ∃ t, Coherent { state := s, written := t }

/-- Where the store of a plugin is that has been started on an empty datastore. -/
def Staged (s : State α) : Prop := Unwritten s ∨ Headless s ∨ Written s

theorem Unwritten.blank : Unwritten (State.ofDocument printer [] (.node [] : DocTree α)) where
  tidy := .blank
  replays := ⟨rfl, fun hne => absurd rfl hne⟩
  content := rfl
  pos := rfl
  initPos := rfl

/-! ### What a write does in each of them -/

/-- The content that is there after patches have been appended to nothing. -/
theorem joinPatches_head {patches : List (Patch α)} (h : patches ≠ []) :
    ∃ rest, joinPatches patches = .separator :: rest := by
  cases patches with
  | nil => exact absurd rfl h
  | cons p patches => exact ⟨_, rfl⟩

theorem Unwritten.write (h : Unwritten s) (hpending : s.pendingChanges ≠ []) :
    Headless (s.write printer false true) := by
  have hplain : s.storage.needsConsolidation = false := by
    unfold Storage.needsConsolidation
    rw [h.pos, h.initPos]
    rfl
  have hsome : s.pendingChanges.isEmpty = false := by
    simpa using hpending
  obtain ⟨rest, hrest⟩ := joinPatches_head hpending
  unfold State.write
  rw [hplain, hsome]
  refine ⟨h.tidy.of_data rfl (Nat.le_refl _), ⟨_, rfl, fun hne => absurd rfl hne⟩, ⟨rest, ?_⟩, ?_,
    h.initPos, h.replays.dirty hpending⟩
  · show s.storage.content ++ joinPatches s.pendingChanges = _
    rw [h.content, hrest]
    rfl
  · show 0 < s.storage.pos + printer.length (joinPatches s.pendingChanges)
    have : 0 < printer.length (joinPatches s.pendingChanges) := by
      apply printer.length_pos
      rw [hrest]
      exact List.cons_ne_nil _ _
    omega

/-- Without anything to append the store stays empty. -/
theorem Unwritten.write_idle (h : Unwritten s) (hpending : s.pendingChanges = []) (answers : Bool) :
    s.write printer false answers = s := by
  unfold State.write Storage.needsConsolidation
  rw [h.pos, h.initPos, hpending]
  rfl

/-- **The second write puts the store right.** -/
theorem Headless.coherent_write (h : Headless s) :
    Coherent { state := s.write printer false true, written := s.doc } := by
  have hlong : s.storage.needsConsolidation = true := by
    have := h.pos
    unfold Storage.needsConsolidation
    rw [h.initPos]
    exact decide_eq_true (by omega)
  unfold State.write
  rw [hlong, h.modified]
  exact ⟨h.tidy.of_data rfl (Nat.le_refl _), ⟨rfl, fun hne => absurd rfl hne⟩, ⟨_, [], rfl⟩, rfl,
    s, h.tidy, rfl⟩

theorem Headless.write (h : Headless s) : Written (s.write printer false true) :=
  ⟨s.doc, h.coherent_write⟩

theorem Written.write (h : Written s) : Written (s.write printer false true) := by
  obtain ⟨t, ht⟩ := h
  exact ⟨_, coherent_write ht⟩

/-! ### What a new process makes of it -/

theorem Unwritten.loads (h : Unwritten s) (hpending : s.pendingChanges = []) : Loads printer s := by
  have hdoc : s.doc = .node [] := by
    have := h.replays.applies
    rw [hpending] at this
    exact (Option.some.inj this).symm
  refine ⟨State.ofDocument printer [] (.node []), ?_, hdoc.symm⟩
  rw [h.content]
  rfl

/-- A text that begins with a separator is no list of values. -/
theorem Headless.not_loads (h : Headless s) : ¬ Loads printer s := by
  rintro ⟨s', hopen, -⟩
  obtain ⟨rest, hrest⟩ := h.content
  rw [hrest] at hopen
  cases hopen

theorem Coherent.loads_doc (h : Coherent { state := s, written := s.doc }) : Loads printer s := by
  have hopen : ∃ s', State.open printer _ = some s' ∧ s'.doc = _ ∧ Coherent _ := open_written h
  obtain ⟨s', hopen, hdoc, -⟩ := hopen
  exact ⟨s', hopen, hdoc⟩

theorem Headless.loads_write (h : Headless s) : Loads printer (s.write printer false true) := by
  have hwritten : Written (s.write printer false true) := h.write
  obtain ⟨t, ht⟩ := hwritten
  have hnone : (s.write printer false true).pendingChanges = [] := by
    have := h.pos
    unfold State.write Storage.needsConsolidation
    rw [h.initPos, h.modified, if_pos (by simpa using this)]
    rfl
  have hdoc : t = (s.write printer false true).doc := by
    have := ht.replays.applies
    rw [hnone] at this
    exact Option.some.inj this
  subst hdoc
  exact ht.loads_doc

theorem Written.loads_write (h : Written s) : Loads printer (s.write printer false true) := by
  obtain ⟨t, ht⟩ := h
  exact (coherent_write ht).loads_doc

theorem Written.content_ne (h : Written s) : s.storage.content ≠ [] := by
  obtain ⟨t, ht⟩ := h
  obtain ⟨tables, rest, hcontent⟩ := ht.based
  show s.storage.content ≠ []
  rw [hcontent]
  exact List.cons_ne_nil _ _

/-! ## Every run of a plugin that was started on nothing -/

section Runs

variable [DecidableEq α]

/-- What happens to the store until the plugin ends. -/
def Ordinary (s : State α) : Action α → Prop
  | .restart => False
  | a => Allowed s a

omit [DecidableEq α] in
theorem Ordinary.allowed {a : Action α} (h : Ordinary s a) : Allowed s a := by
  cases a with
  | restart => cases h
  | _ => exact h

instance : ∀ a : Action α, Decidable (Ordinary s a)
  | .restart => .isFalse id
  | .getDict _ | .setItem .. | .pop .. | .setAttr .. | .construct _ | .write _ =>
    inferInstanceAs (Decidable (Allowed s _))

/-- **Every step stays in a stage or leads to the next one.** -/
theorem staged_step {a : Action α} (ha : Ordinary s a) (h : Staged s) :
    Staged (step printer false a s) := by
  cases hchanges : a.changes with
  | true =>
    rcases h with h | h | ⟨t, h⟩
    · have hs : Stays _ s (step printer false a s) := stays_step h.tidy h.replays ha.allowed hchanges
      exact .inl ⟨hs.tidy, hs.replays, hs.storage ▸ h.content, hs.storage ▸ h.pos, hs.storage ▸ h.initPos⟩
    · obtain ⟨t, ht⟩ := h.replays
      have hs : Stays _ s (step printer false a s) := stays_step h.tidy ht ha.allowed hchanges
      exact .inr <| .inl ⟨hs.tidy, ⟨t, hs.replays⟩, hs.storage ▸ h.content, hs.storage ▸ h.pos,
        hs.storage ▸ h.initPos, hs.modified h.modified⟩
    · have hs : Stays _ s (step printer false a s) := stays_step h.tidy h.replays ha.allowed hchanges
      exact .inr <| .inr ⟨t, hs.coherent h⟩
  | false =>
    obtain ⟨answers, rfl⟩ : ∃ answers, a = .write answers := by
      cases a with
      | write answers => exact ⟨answers, rfl⟩
      | restart => cases ha
      | getDict | setItem | pop | setAttr | construct => cases hchanges
    show Staged (s.write printer false answers)
    cases answers with
    | false =>
      rw [write_fails]
      exact h
    | true =>
      rcases h with h | h | h
      · by_cases hpending : s.pendingChanges = []
        · rw [h.write_idle hpending]
          exact .inl h
        · exact .inr <| .inl <| h.write hpending
      · exact .inr <| .inr h.write
      · exact .inr <| .inr h.write

theorem staged_run (h : Run (step printer false) Ordinary (.ofDocument printer [] (.node [])) s) :
    Staged s := by
  have hstep : ∀ s a, Ordinary s a → Staged s → Staged (step printer false a s) :=
    fun _ _ => staged_step
  exact h.invariant hstep (.inl .blank)

/-- **A completed write leaves a store that loads, to the document as it is then, precisely when it is
not the first one with something to write.** -/
theorem write_loads_iff
    (h : Run (step printer false) Ordinary (.ofDocument printer [] (.node [])) s) :
    Loads printer (s.write printer false true)
      ↔ ¬ (s.storage.content = [] ∧ s.pendingChanges ≠ []) := by
  rcases staged_run h with h | h | h
  · by_cases hpending : s.pendingChanges = []
    · rw [h.write_idle hpending]
      simp [h.loads hpending, hpending]
    · have hnot : ¬ Loads printer (s.write printer false true) := (h.write hpending).not_loads
      simp [hnot, h.content, hpending]
  · obtain ⟨rest, hrest⟩ := h.content
    simp [h.loads_write, hrest]
  · simp [h.loads_write, h.content_ne]

end Runs

/-! ## Every run, restarts included -/

section Restarts

variable [DecidableEq α] {o o' : Observed α}

omit [DecidableEq α] in
/-- The plugin has been started, on an empty datastore or on one with a document in it. -/
inductive Begun (printer : Printer α) (o : Observed α) : Prop
  | empty (h : o = { state := .ofDocument printer [] (.node []), written := .node [] })
  | found (h : Fresh printer o)

/-- What happens to the store. A restart that raises leads to no process that something happens to. -/
def Happens (printer : Printer α) (o : Observed α) : Action α → Prop
  | .restart => (State.open printer o.state.storage.content).isSome = true
  | a => Permitted o a

instance {printer : Printer α} : ∀ a : Action α, Decidable (Happens printer o a)
  | .restart => inferInstanceAs (Decidable (_ = true))
  | .getDict _ | .setItem .. | .pop .. | .setAttr .. | .construct _ | .write _ =>
    inferInstanceAs (Decidable (Permitted o _))

omit [DecidableEq α] in
/-- Where a store is, and what has been written to it last. -/
inductive Stage (o : Observed α) : Prop
  | unwritten (h : Unwritten o.state) (hwritten : o.written = .node [])
  | headless (h : Headless o.state)
  | document (h : Coherent o)

omit [DecidableEq α] in
theorem Begun.stage (h : Begun printer o) : Stage o := by
  cases h with
  | empty h =>
    subst h
    exact .unwritten .blank rfl
  | found h => exact .document (coherent_fresh h)

/-- A change of the live document leaves the store in its stage. -/
theorem stage_change {a : Action α} (ha : Permitted o a) (hchanges : a.changes = true) (h : Stage o) :
    Stage { state := step printer false a o.state, written := o.written } := by
  cases h with
  | unwritten h hwritten =>
    have hs : Stays _ o.state (step printer false a o.state) :=
      stays_step h.tidy h.replays ha hchanges
    refine .unwritten ⟨hs.tidy, hs.replays, ?_, ?_, ?_⟩ hwritten
    · exact hs.storage ▸ h.content
    · exact hs.storage ▸ h.pos
    · exact hs.storage ▸ h.initPos
  | headless h =>
    obtain ⟨t, ht⟩ := h.replays
    have hs : Stays _ o.state (step printer false a o.state) := stays_step h.tidy ht ha hchanges
    refine .headless ⟨hs.tidy, ⟨t, hs.replays⟩, ?_, ?_, ?_, hs.modified h.modified⟩
    · exact hs.storage ▸ h.content
    · exact hs.storage ▸ h.pos
    · exact hs.storage ▸ h.initPos
  | document h => exact .document ((stays_step h.tidy h.replays ha hchanges).coherent h)

/-- A write that goes through leads on to the next stage. -/
theorem stage_write (h : Stage o) : Stage (observe printer false (.write true) o) := by
  cases h with
  | unwritten h hwritten =>
    by_cases hpending : o.state.pendingChanges = []
    · have hdoc : o.state.doc = .node [] := by
        have := h.replays.applies
        rw [hpending] at this
        exact (Option.some.inj this).symm
      show Stage { state := o.state.write printer false true
                   written := (o.state.write printer false true).doc }
      rw [h.write_idle hpending]
      exact .unwritten h hdoc
    · exact .headless (h.write hpending)
  | headless h =>
    have hdoc : (o.state.write printer false true).doc = o.state.doc := by
      unfold State.write
      split_ifs <;> rfl
    refine .document ?_
    show Coherent { state := o.state.write printer false true
                    written := (o.state.write printer false true).doc }
    rw [hdoc]
    exact h.coherent_write
  | document h => exact .document (coherent_write h)

/-- A process that comes up has found one of the stages without its middle one. -/
theorem stage_restart (hopens : (State.open printer o.state.storage.content).isSome = true)
    (h : Stage o) : Stage (observe printer false .restart o) := by
  cases h with
  | unwritten h hwritten =>
    refine .unwritten ?_ hwritten
    show Unwritten ((State.open printer o.state.storage.content).getD o.state)
    rw [h.content]
    exact .blank
  | headless h =>
    obtain ⟨rest, hrest⟩ := h.content
    rw [hrest] at hopens
    cases hopens
  | document h =>
    have hopen : ∃ s, State.open printer _ = some s ∧ s.doc = _ ∧ Coherent _ := open_written h
    obtain ⟨s, hopen, -, hs⟩ := hopen
    refine .document ?_
    show Coherent { state := (State.open printer o.state.storage.content).getD o.state
                    written := o.written }
    rw [hopen]
    exact hs

theorem stage_observe {a : Action α} (ha : Happens printer o a) (h : Stage o) :
    Stage (observe printer false a o) := by
  cases a with
  | restart => exact stage_restart ha h
  | write answers =>
    cases answers with
    | true => exact stage_write h
    | false =>
      show Stage { state := o.state.write printer false false, written := o.written }
      rw [write_fails]
      exact h
  | getDict => exact stage_change ha rfl h
  | setItem => exact stage_change ha rfl h
  | pop => exact stage_change ha rfl h
  | setAttr => exact stage_change ha rfl h
  | construct => exact stage_change ha rfl h

theorem stage_run (hstart : Begun printer o)
    (h : Run (observe printer false) (Happens printer) o o') : Stage o' := by
  have hstep : ∀ t a, Happens printer t a → Stage t → Stage (observe printer false a t) :=
    fun _ _ => stage_observe
  exact h.invariant hstep hstart.stage

/-- **A restart loses what has not been written, and nothing else**, wherever a run has come to: a new
process works on the document as of the last write, and raises precisely if the content starts with a
patch, because the first write to an empty datastore has been the only one. -/
theorem restart_written_iff (hstart : Begun printer o)
    (h : Run (observe printer false) (Happens printer) o o') :
    ((∃ s, State.open printer o'.state.storage.content = some s ∧ s.doc = o'.written) ↔
      ¬ ∃ rest, o'.state.storage.content = .separator :: rest) ∧
    ((∃ rest, o'.state.storage.content = .separator :: rest) →
      State.open printer o'.state.storage.content = none) := by
  have hheadless : (∃ rest, o'.state.storage.content = .separator :: rest) →
      State.open printer o'.state.storage.content = none := by
    rintro ⟨rest, hrest⟩
    rw [hrest]
    rfl
  refine ⟨⟨?_, fun hcontent => ?_⟩, hheadless⟩
  · rintro ⟨s, hopen, -⟩ hcontent
    rw [hheadless hcontent] at hopen
    cases hopen
  · cases stage_run hstart h with
    | unwritten h hwritten =>
      refine ⟨State.ofDocument printer [] (.node []), ?_, hwritten.symm⟩
      rw [h.content]
      rfl
    | headless h => exact absurd h.content hcontent
    | document h =>
      have hopen : ∃ s, State.open printer _ = some s ∧ s.doc = _ ∧ Coherent _ := open_written h
      obtain ⟨s, hopen, hdoc, -⟩ := hopen
      exact ⟨s, hopen, hdoc⟩

end Restarts

end Stages

section Sample

open Sample

/-- The plugin has taken its dictionary of swaps, which was not there. -/
private def started (actions : List (Action Str)) : State Str :=
  actions.foldl (fun s a => step printer false a s) blank

/-- The write of this is appended to nothing. -/
theorem firstWrite_not_loads : ∃ s : State Str,
    Run (step printer false) Ordinary (.ofDocument printer [] (.node [])) s ∧
    ¬ Loads printer (s.write printer false true) := by
  have hallows : Allows (step printer false) Ordinary blank [.getDict SWAPS] := by decide +kernel
  refine ⟨started [.getDict SWAPS], .of_allows .refl hallows, ?_⟩
  rintro ⟨s', hopen, -⟩
  have hnone : (State.open printer
      ((started [.getDict SWAPS]).write printer false true).storage.content).isNone = true := by
    decide +kernel
  rw [hopen] at hnone
  cases hnone

/-- When the first swap has been written too, everything is there. -/
theorem write_loads_second :
    Loads printer ((started (storeSwap ++ [.write true, fund])).write printer false true)
      ↔ ¬ ((started (storeSwap ++ [.write true, fund])).storage.content = [] ∧
        (started (storeSwap ++ [.write true, fund])).pendingChanges ≠ []) := by
  have hallows : Allows (step printer false) Ordinary blank (storeSwap ++ [.write true, fund]) := by
    decide +kernel
  exact write_loads_iff (.of_allows .refl hallows)

/-- The plugin is started on an empty datastore, stores a swap, notes its funding transaction, and is
started again after the second write, before it takes the swap out. -/
private def lived : Observed Str :=
  (storeSwap ++ [.write true, fund, .write true, .restart, .pop SWAPS key]).foldl
    (fun o a => observe printer false a o) { state := blank, written := .node [] }

theorem restart_written_second :
    ((∃ s, State.open printer lived.state.storage.content = some s ∧ s.doc = lived.written) ↔
      ¬ ∃ rest, lived.state.storage.content = .separator :: rest) ∧
    ((∃ rest, lived.state.storage.content = .separator :: rest) →
      State.open printer lived.state.storage.content = none) := by
  have hallows : Allows (observe printer false) (Happens printer)
      { state := blank, written := .node [] }
      (storeSwap ++ [.write true, fund, .write true, .restart, .pop SWAPS key]) := by decide +kernel
  exact restart_written_iff (.empty rfl) (.of_allows .refl hallows)

end Sample

end SubswapProvider.JsonDb
