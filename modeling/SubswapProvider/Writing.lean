import SubswapProvider.World

/-!
# What a write comes to

`JsonDB.write` either has nothing to do, or fails, or goes through. Which of them it is depends on
the store and on the datastore's answer alone, so a program that ends in a write has one spec lemma
(`dbWrite_run`) whatever it did before.
-/

namespace SubswapProvider

open Effect

/-- Whether `write` calls the datastore. -/
def Db.writes (env : Env) (db : Db) : Bool :=
  if env.consolidates db.calls || db.headless then db.modified else db.pending

/-- The process with another store. -/
def World.withStore (db : Db) (views : List View) (w : World) : World :=
  { w with db := db, views := views }

/-- The process that has called `write` once more. -/
def World.called (w : World) : World := { w with db := { w.db with calls := w.db.calls + 1 } }

/-- The process after a `write` that returns. -/
def World.written (env : Env) (w : World) : World :=
  if w.db.writes env then
    if env.consolidates w.db.calls || w.db.headless then w.called.consolidate else w.called.append
  else w.called

/-- **Spec of `write`.** It raises exactly when it calls the datastore and the call fails. -/
theorem dbWrite_run (env : Env) (w : World) :
    dbWrite env w =
      if w.db.writes env && env.writeFails w.db.calls then .error .StorageReadWriteError w.called
      else .ok ⟨⟩ (w.written env) := by
  unfold dbWrite World.written Db.writes
  rw [get_bind]
  dsimp only
  rw [modify_bind]
  change (if env.consolidates w.db.calls || w.db.headless then _ else _ : PyM Unit) w.called = _
  by_cases hc : (env.consolidates w.db.calls || w.db.headless) = true
  · simp only [if_pos hc]
    by_cases hm : w.db.modified = true
    · simp only [hm, Bool.true_and, if_true]
      split
      · rfl
      · rfl
    · simp only [Bool.eq_false_iff.mpr hm, Bool.false_and, Bool.false_eq_true, if_false]
      rfl
  · simp only [if_neg hc]
    by_cases hp : w.db.pending = true
    · simp only [hp, Bool.true_and, if_true]
      split
      · rfl
      · rfl
    · simp only [Bool.eq_false_iff.mpr hp, Bool.false_and, Bool.false_eq_true, if_false]
      rfl

theorem World.called_withStore (w : World) :
    w.called = w.withStore { w.db with calls := w.db.calls + 1 } w.views := rfl

/-- `s` is `w` after one more call of `write`: nothing but the store changes. -/
def World.Wrote (w s : World) : Prop :=
  ∃ db views, s = w.withStore db views ∧ db.calls = w.db.calls + 1

theorem World.wrote_called (w : World) : w.Wrote w.called := ⟨_, _, w.called_withStore, rfl⟩

theorem World.wrote_written (env : Env) (w : World) : w.Wrote (w.written env) := by
  unfold World.written
  split
  · split
    · exact ⟨_, _, rfl, rfl⟩
    · exact ⟨_, _, rfl, rfl⟩
  · exact ⟨_, _, rfl, rfl⟩

/-- A store with unwritten changes calls the datastore. -/
theorem Db.writes_of_pending {env : Env} {db : Db} (hp : db.pending = true)
    (hm : db.modified = true) : db.writes env = true := by
  unfold Db.writes
  split
  · exact hm
  · exact hp

/-- A write counts its calls and changes nothing but the store; where there is something to write,
it returns only if the datastore's call does. -/
theorem triple_dbWrite (env : Env) (w : World) :
    Triple (· = w) (dbWrite env)
      (fun _ s => w.Wrote s ∧
        (w.db.pending = true → w.db.modified = true → env.writeFails w.db.calls = false))
      (fun _ s => w.Wrote s ∧ env.writeFails w.db.calls = true) := by
  rintro s rfl
  rw [dbWrite_run]
  by_cases h : (s.db.writes env && env.writeFails s.db.calls) = true
  · rw [if_pos h]
    exact ⟨s.wrote_called, (Bool.and_eq_true_iff.mp h).2⟩
  · rw [if_neg h]
    refine ⟨s.wrote_written env, fun hp hm => ?_⟩
    rw [Db.writes_of_pending hp hm, Bool.true_and] at h
    exact Bool.eq_false_iff.mpr h

end SubswapProvider
