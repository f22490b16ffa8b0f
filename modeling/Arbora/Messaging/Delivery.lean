import Arbora.Messaging.Coalescer
import Mathlib.Data.List.ReduceOption

/-! Every submitted item is handed over once, for whatever is buffered has a timer that is going to flush it. -/
namespace Arbora.Messaging
namespace BurstCoalescer
open Machine
variable {Item Time : Type} {s s' : BurstCoalescer Item Time} {key : String} {t : ℕ} {task : TimerTask}
  {current : Option ℕ}

theorem pending_of_get (hget : s'.tasks.get t = s.tasks.get t) (h : s.pending key t) : s'.pending key t := by
  obtain ⟨task,htask,hrest⟩ := h
  exact ⟨task,hget.trans htask,hrest⟩

theorem pending_key {key' : String} (h : s.pending key t) (h' : s.pending key' t) : key = key' := by
  obtain ⟨task,htask,rfl,-⟩ := h
  obtain ⟨task',htask',rfl,-⟩ := h'
  rw [htask,Option.some_inj] at htask'
  rw [htask']

theorem finished_of_pending (h : s.pending key t) : s.finished t = false := by
  obtain ⟨task,htask,-,hphase,-⟩ := h
  unfold finished
  rw [htask]
  rcases hphase with hphase | hphase
  · simp [hphase]
  · simp [hphase]

theorem cancel_eq (htask : s.tasks.get t = some task) :
    s.cancel t = {s with tasks := s.tasks.set t {task with cancelRequested := true}} := by
  unfold cancel
  rw [htask]

theorem enter_get_ne {t' : ℕ} {phase : TimerPhase} (hne : t' ≠ t) :
    (s.enter t task phase).tasks.get t' = s.tasks.get t' := Dict.get_set_ne _ _ hne

section

structure Armed (s : BurstCoalescer Item Time) : Prop where
  timers : ∀ key t, s.timers.get key = some t → s.pending key t
  buffered : ∀ key, s.buffered key ≠ [] → s.timers.get key ≠ none
  fresh : ∀ t task, s.tasks.get t = some task → t < s.nextTask
  handlers : ∀ t task, s.tasks.get t = some task → task.phase = .flushing → task.cancelRequested = false

structure ArmedBut (key : String) (current : Option ℕ) (s : BurstCoalescer Item Time) : Prop where
  timers : ∀ key' t, key' ≠ key → s.timers.get key' = some t → s.pending key' t
  own : ∀ t, s.timers.get key = some t → some t ≠ current → s.pending key t
  buffered : ∀ key', key' ≠ key → s.buffered key' ≠ [] → s.timers.get key' ≠ none
  fresh : ∀ t task, s.tasks.get t = some task → t < s.nextTask
  handlers : ∀ t task, s.tasks.get t = some task → task.phase = .flushing → task.cancelRequested = false

theorem ArmedBut.cancel (h : s.ArmedBut key current) (ht : s.timers.get key = some t) (hother : some t ≠ current) :
    (s.cancel t).ArmedBut key (some t) := by
  have hown := h.own t ht hother
  obtain ⟨task,htask,-,hphase,-⟩ := id hown
  rw [cancel_eq htask]
  refine ⟨fun key' t' hne ht' => ?_,fun t' ht' hdiff => ?_,h.buffered,fun t' task' htask' => ?_,
    fun t' task' htask' hflushing => ?_⟩
  · have hpending := h.timers key' t' hne ht'
    have hdiff : t' ≠ t := fun heq => hne (pending_key hpending (heq ▸ hown))
    exact pending_of_get (Dict.get_set_ne _ _ hdiff) hpending
  · have ht' : s.timers.get key = some t' := ht'
    exact absurd (ht'.symm.trans ht) hdiff
  · by_cases heq : t' = t
    · exact h.fresh t' task (heq ▸ htask)
    · have hget := Dict.get_set_ne s.tasks {task with cancelRequested := true} heq
      exact h.fresh t' task' (hget.symm.trans htask')
  · by_cases heq : t' = t
    · subst heq
      have hsame := Dict.get_set_self s.tasks t' {task with cancelRequested := true}
      have heq := Option.some.inj (hsame.symm.trans htask')
      rw [← heq] at hflushing
      rcases hphase with hphase | hphase
      · rw [hphase] at hflushing
        cases hflushing
      · rw [hphase] at hflushing
        cases hflushing
    · have hget := Dict.get_set_ne s.tasks {task with cancelRequested := true} heq
      exact h.handlers t' task' (hget.symm.trans htask') hflushing

theorem ArmedBut.popped (h : s.ArmedBut key current) : (s.popped key).Armed := by
  have hbuffered : ∀ key', key' ≠ key → (s.popped key).buffered key' = s.buffered key' := by
    intro key' hne
    exact congrArg (Option.getD · []) (Dict.get_pop_ne s.buffers hne)
  refine ⟨fun key' t' ht' => ?_,fun key' hitems => ?_,h.fresh,h.handlers⟩
  · by_cases heq : key' = key
    · subst heq
      exact absurd (ht'.symm.trans (Dict.get_pop_self s.timers key')) (Option.some_ne_none _)
    · exact h.timers key' t' heq ((Dict.get_pop_ne s.timers heq).symm.trans ht')
  · by_cases heq : key' = key
    · subst heq
      exact absurd (congrArg (Option.getD · []) (Dict.get_pop_self s.buffers key')) hitems
    · rw [hbuffered key' heq] at hitems
      rw [show (s.popped key).timers.get key' = s.timers.get key' from Dict.get_pop_ne s.timers heq]
      exact h.buffered key' heq hitems

theorem popped_cancel (s : BurstCoalescer Item Time) (key : String) (t : ℕ) :
    (s.popped key).cancel t = (s.cancel t).popped key := by
  unfold BurstCoalescer.cancel
  rw [show (s.popped key).tasks = s.tasks from rfl]
  cases s.tasks.get t with
  | none => rfl
  | some task => rfl

theorem flush_armed (h : s.ArmedBut key current) : (s.flush current key).2.Armed := by
  unfold flush
  cases htimer : s.timers.get key with
  | none => exact h.popped
  | some timer =>
    dsimp only
    split_ifs with hcancel
    · rw [popped_cancel]
      exact (h.cancel htimer hcancel.1).popped
    · exact h.popped

theorem added_armedBut (h : s.Armed) (current : Option ℕ) (item : Item) (now : Time) :
    (s.added key item now).ArmedBut key current := by
  refine ⟨fun key' t _ => h.timers key' t,fun t ht _ => h.timers key t ht,fun key' hne hitems => ?_,h.fresh,h.handlers⟩
  have hbuffered : (s.added key item now).buffered key' = s.buffered key' :=
    congrArg (Option.getD · []) (Dict.get_set_ne s.buffers _ hne)
  rw [hbuffered] at hitems
  exact h.buffered key' hitems

/-- A new timer takes the place of whatever stood there. -/
theorem ArmedBut.arm (h : s.ArmedBut key current) :
    Armed {s with
      timers := s.timers.set key s.nextTask
      tasks := s.tasks.set s.nextTask ⟨key,.created,false⟩
      nextTask := s.nextTask+1} := by
  have hold : ∀ {t task}, s.tasks.get t = some task → t ≠ s.nextTask := by
    intro t task htask
    exact Nat.ne_of_lt (h.fresh t task htask)
  refine ⟨fun key' t' ht' => ?_,fun key' hitems => ?_,fun t' task' htask' => ?_,fun t' task' htask' hflushing => ?_⟩
  · have ht' : (s.timers.set key s.nextTask).get key' = some t' := ht'
    rw [Dict.get_set] at ht'
    split_ifs at ht' with heq
    · obtain rfl := Option.some.inj ht'
      exact ⟨_,Dict.get_set_self ..,heq.symm,.inl rfl,rfl⟩
    · have hpending := h.timers key' t' heq ht'
      obtain ⟨task,htask,-⟩ := id hpending
      exact pending_of_get (Dict.get_set_ne _ _ (hold htask)) hpending
  · have hget := Dict.get_set s.timers key' key s.nextTask
    refine fun hnone => ?_
    have hnone : (s.timers.set key s.nextTask).get key' = none := hnone
    rw [hget] at hnone
    split_ifs at hnone with heq
    exact h.buffered key' heq hitems hnone
  · have htask' : (s.tasks.set s.nextTask ⟨key,.created,false⟩).get t' = some task' := htask'
    rw [Dict.get_set] at htask'
    split_ifs at htask' with heq
    · exact heq ▸ Nat.lt_succ_self _
    · exact Nat.lt_succ_of_lt (h.fresh t' task' htask')
  · have htask' : (s.tasks.set s.nextTask ⟨key,.created,false⟩).get t' = some task' := htask'
    rw [Dict.get_set] at htask'
    split_ifs at htask' with heq
    · obtain rfl := Option.some.inj htask'
      cases hflushing
    · exact h.handlers t' task' htask' hflushing

theorem rearmed_armed (h : s.ArmedBut key none) : (s.rearmed key).Armed := by
  unfold rearmed
  cases htimer : s.timers.get key with
  | none => exact h.arm
  | some old =>
    have hpending := h.own old htimer (Option.some_ne_none _)
    have hrunning := finished_of_pending hpending
    dsimp only
    rw [if_neg (by rw [hrunning]; exact Bool.false_ne_true)]
    exact (h.cancel htimer (Option.some_ne_none _)).arm

theorem Armed.enter (h : s.Armed) (htask : s.tasks.get t = some task) (cancelRequested : Bool) {phase : TimerPhase}
    (hrequest : phase = .flushing → cancelRequested = false) :
    (s.enter t {task with cancelRequested := cancelRequested} phase).ArmedBut task.key (some t) := by
  refine ⟨fun key' t' hne ht' => ?_,fun t' ht' hother => ?_,fun key' _ => h.buffered key',fun t' task' htask' => ?_,
    fun t' task' htask' hflushing => ?_⟩
  · have hpending := h.timers key' t' ht'
    have hdiff : t' ≠ t := by
      rintro rfl
      obtain ⟨task',htask',hkey,-⟩ := hpending
      rw [htask,Option.some_inj] at htask'
      exact hne (htask' ▸ hkey.symm)
    exact pending_of_get (enter_get_ne hdiff) hpending
  · have hdiff : t' ≠ t := fun heq => hother (congrArg some heq)
    exact pending_of_get (enter_get_ne hdiff) (h.timers task.key t' ht')
  · by_cases heq : t' = t
    · exact h.fresh t' task (heq ▸ htask)
    · exact h.fresh t' task' ((enter_get_ne heq).symm.trans htask')
  · by_cases heq : t' = t
    · subst heq
      obtain rfl := Option.some.inj ((Dict.get_set_self ..).symm.trans htask')
      exact hrequest hflushing
    · exact h.handlers t' task' ((enter_get_ne heq).symm.trans htask') hflushing

theorem Armed.enter_armed (h : s.Armed) (htask : s.tasks.get t = some task) {phase : TimerPhase}
    (hphase : phase ≠ .flushing) (hpending : s.pending task.key t → phase = .sleeping) :
    (s.enter t task phase).Armed := by
  have hbut := h.enter htask task.cancelRequested fun heq => absurd heq hphase
  refine ⟨fun key' t' ht' => ?_,h.buffered,hbut.fresh,hbut.handlers⟩
  have hold := h.timers key' t' ht'
  by_cases heq : t' = t
  · subst heq
    obtain ⟨task',htask',rfl,-,hrequest⟩ := id hold
    obtain rfl := Option.some.inj (htask.symm.trans htask')
    exact ⟨_,Dict.get_set_self ..,rfl,.inr (hpending hold),hrequest⟩
  · exact pending_of_get (enter_get_ne heq) hold

theorem starts_armed (h : s.Armed) (t : ℕ) : (s.starts t).Armed := by
  unfold starts
  cases htask : s.tasks.get t with
  | none => exact h
  | some task =>
    dsimp only
    split_ifs with hcreated hcancelled
    · refine h.enter_armed htask (fun heq => by cases heq) fun hpending => ?_
      obtain ⟨task',htask',-,-,hrequest⟩ := hpending
      obtain rfl := Option.some.inj (htask.symm.trans htask')
      exact absurd hcancelled (by rw [hrequest]; exact Bool.false_ne_true)
    · exact h.enter_armed htask (fun heq => by cases heq) fun _ => rfl
    · exact h

theorem wakes_armed (h : s.Armed) (t : ℕ) (swallowed : Bool) : (s.wakes t swallowed).2.Armed := by
  unfold wakes
  cases htask : s.tasks.get t with
  | none => exact h
  | some task =>
    dsimp only
    split_ifs with hphase hcancelled
    · exact h
    · refine h.enter_armed htask (fun heq => by cases heq) fun hpending => ?_
      obtain ⟨task',htask',-,-,hrequest⟩ := hpending
      obtain rfl := Option.some.inj (htask.symm.trans htask')
      exact absurd hcancelled.1 (by rw [hrequest]; exact Bool.false_ne_true)
    · exact flush_armed (h.enter htask false fun _ => rfl)
    · exact flush_armed (h.enter htask false fun _ => rfl)

theorem handled_armed (h : s.Armed) (current : Option ℕ) : (s.handled current).Armed := by
  unfold handled
  cases current with
  | none => exact h
  | some t =>
    dsimp only
    cases htask : s.tasks.get t with
    | none => exact h
    | some task =>
      dsimp only
      split_ifs with hflushing
      · refine h.enter_armed htask (fun heq => by cases heq) fun hpending => ?_
        obtain ⟨task',htask',-,hphase,-⟩ := hpending
        obtain rfl := Option.some.inj (htask.symm.trans htask')
        rw [hflushing] at hphase
        rcases hphase with hphase | hphase
        · cases hphase
        · cases hphase
      · exact h

theorem new_armed [Zero Time] [Max Time] (windowS maxWaitS : Time) :
    (new windowS maxWaitS : BurstCoalescer Item Time).Armed where
  timers key t ht := by cases ht
  buffered key hitems := absurd rfl hitems
  fresh t task htask := by cases htask
  handlers t task htask := by cases htask

variable [Sub Time] [LE Time] [DecidableLE Time]

theorem step_armed (s : BurstCoalescer Item Time) (c : Choice Item Time) (h : s.Armed) : (s.step c).2.Armed := by
  cases c with
  | submit current key item now =>
    have hsubmit : s.step (.submit current key item now) = s.submit current key item now := rfl
    rw [hsubmit]
    unfold submit
    dsimp only
    split_ifs
    · exact flush_armed (added_armedBut h current item now)
    · exact rearmed_armed (added_armedBut h none item now)
  | starts t => exact starts_armed h t
  | wakes t swallowed => exact wakes_armed h t swallowed
  | handled current failed => exact handled_armed h current

end

section

def handedTo (key : String) (call : Option (Batch Item)) : List Item := (batches key [call]).flatten

theorem flush_fst (s : BurstCoalescer Item Time) (current : Option ℕ) (key : String) :
    (s.flush current key).1 = if s.buffered key = [] then none else some ⟨key,s.buffered key⟩ := rfl

theorem flush_buffers (s : BurstCoalescer Item Time) (current : Option ℕ) (key : String) :
    (s.flush current key).2.buffers = s.buffers.pop key := by
  have hcancel : ∀ timer, ((s.popped key).cancel timer).buffers = s.buffers.pop key := by
    intro timer
    rw [popped_cancel]
    unfold BurstCoalescer.cancel
    cases s.tasks.get timer with
    | none => rfl
    | some task => rfl
  unfold flush
  dsimp only
  cases s.timers.get key with
  | none => rfl
  | some timer =>
    dsimp only
    split_ifs
    · exact hcancel timer
    · rfl

theorem flush_flow (s : BurstCoalescer Item Time) (current : Option ℕ) (key key' : String) :
    handedTo key (s.flush current key').1 ++ (s.flush current key').2.buffered key = s.buffered key := by
  have hrest : (s.flush current key').2.buffered key = if key = key' then [] else s.buffered key := by
    unfold buffered
    rw [flush_buffers,Dict.get_pop]
    split_ifs
    · rfl
    · rfl
  rw [hrest,flush_fst]
  by_cases hkey : key = key'
  · subst hkey
    by_cases hitems : s.buffered key = []
    · rw [if_pos hitems,if_pos rfl,hitems]
      rfl
    · rw [if_neg hitems,if_pos rfl]
      simp [handedTo,batches,List.reduceOption]
  · rw [if_neg hkey]
    by_cases hitems : s.buffered key' = []
    · rw [if_pos hitems]
      rfl
    · rw [if_neg hitems]
      simp [handedTo,batches,List.reduceOption,Ne.symm hkey]

theorem rearmed_buffers (s : BurstCoalescer Item Time) (key : String) : (s.rearmed key).buffers = s.buffers := by
  unfold rearmed
  cases s.timers.get key with
  | none => rfl
  | some old =>
    dsimp only
    split_ifs
    · rfl
    · unfold BurstCoalescer.cancel
      cases s.tasks.get old with
      | none => rfl
      | some task => rfl

theorem added_buffered (s : BurstCoalescer Item Time) (key key' : String) (item : Item) (now : Time) :
    (s.added key' item now).buffered key = s.buffered key ++ if key' = key then [item] else [] := by
  have hget : (s.added key' item now).buffers.get key = _ := Dict.get_set s.buffers key key' _
  unfold buffered
  rw [hget]
  by_cases hkey : key = key'
  · subst hkey
    rw [if_pos rfl,if_pos rfl]
    rfl
  · rw [if_neg hkey,if_neg (Ne.symm hkey),List.append_nil]

theorem starts_buffers (s : BurstCoalescer Item Time) (t : ℕ) : (s.starts t).buffers = s.buffers := by
  unfold starts
  cases s.tasks.get t with
  | none => rfl
  | some task =>
    dsimp only
    split_ifs
    · rfl
    · rfl
    · rfl

theorem handled_buffers (s : BurstCoalescer Item Time) (current : Option ℕ) :
    (s.handled current).buffers = s.buffers := by
  unfold handled
  cases current with
  | none => rfl
  | some t =>
    dsimp only
    cases s.tasks.get t with
    | none => rfl
    | some task =>
      dsimp only
      split_ifs
      · rfl
      · rfl

variable [Sub Time] [LE Time] [DecidableLE Time]

theorem step_flow (key : String) (s : BurstCoalescer Item Time) (c : Choice Item Time) :
    handedTo key (s.step c).1 ++ (s.step c).2.buffered key = s.buffered key ++ submissions key [c] := by
  have hidle : ∀ u : BurstCoalescer Item Time, u.buffers = s.buffers →
      handedTo key none ++ u.buffered key = s.buffered key ++ [] := by
    intro u hu
    rw [List.append_nil]
    unfold buffered
    rw [hu]
    rfl
  cases c with
  | submit current key' item now =>
    have hadded := added_buffered s key key' item now
    have hsubmissions : submissions key [Choice.submit current key' item now] = if key' = key then [item] else [] := by
      unfold submissions
      by_cases hkey : key' = key
      · simp [hkey]
      · simp [hkey]
    have hsubmit : s.step (.submit current key' item now) = s.submit current key' item now := rfl
    rw [hsubmit,hsubmissions,← hadded]
    unfold submit
    dsimp only
    split_ifs
    · exact flush_flow (s.added key' item now) current key key'
    · unfold buffered
      rw [rearmed_buffers]
      rfl
  | starts t => exact hidle (s.starts t) (starts_buffers s t)
  | wakes t swallowed =>
    have hwakes : s.step (.wakes t swallowed) = s.wakes t swallowed := rfl
    have hnone : submissions key [(Choice.wakes t swallowed : Choice Item Time)] = [] := rfl
    rw [hwakes,hnone]
    unfold wakes
    cases s.tasks.get t with
    | none => exact hidle s rfl
    | some task =>
      dsimp only
      split_ifs
      · exact hidle s rfl
      · exact hidle _ rfl
      · rw [List.append_nil]
        exact flush_flow _ (some t) key task.key
      · rw [List.append_nil]
        exact flush_flow _ (some t) key task.key
  | handled current failed => exact hidle (s.handled current) (handled_buffers s current)

end

section

theorem batches_flatten (key : String) (calls : List (Option (Batch Item))) :
    (batches key calls).flatten = calls.flatMap (handedTo key) := by
  induction calls with
  | nil => rfl
  | cons call calls ih =>
    have hcons : batches key (call :: calls) = batches key [call] ++ batches key calls := by
      cases call with
      | none => rfl
      | some batch =>
        unfold batches List.reduceOption
        by_cases hkey : batch.key = key
        · simp [hkey]
        · simp [hkey]
    rw [hcons,List.flatten_append,ih,List.flatMap_cons]
    rfl

theorem submissions_eq (key : String) (run : List (Choice Item Time)) :
    submissions key run = run.flatMap fun c => submissions key [c] := by
  induction run with
  | nil => rfl
  | cons c run ih =>
    have hcons : submissions key ([c] ++ run) = submissions key [c] ++ submissions key run := List.filterMap_append
    rw [List.flatMap_cons,← ih]
    exact hcons

theorem starts_sleeps (h : s.pending key t) :
    ∃ task, (s.starts t).tasks.get t = some task ∧ task.key = key ∧ task.phase = .sleeping ∧
      task.cancelRequested = false := by
  obtain ⟨task,htask,hkey,hphase,hrequest⟩ := h
  unfold starts
  rw [htask]
  dsimp only
  rcases hphase with hphase | hphase
  · rw [if_pos hphase,hrequest,if_neg Bool.false_ne_true]
    exact ⟨_,Dict.get_set_self ..,hkey,rfl,hrequest⟩
  · rw [if_neg (by rw [hphase]; decide)]
    exact ⟨task,htask,hkey,hphase,hrequest⟩

variable [Sub Time] [LE Time] [DecidableLE Time]

theorem wakes_delivers (hpending : s.pending key t) (hitems : s.buffered key ≠ []) :
    batches key (answers step s [.starts t,.wakes t false]) = [s.buffered key] := by
  obtain ⟨task,htask,rfl,hphase,hrequest⟩ := starts_sleeps hpending
  have hbuffered : (s.starts t).buffered task.key = s.buffered task.key :=
    congrArg (fun buffers => (Dict.get buffers task.key).getD []) (starts_buffers s t)
  have hwakes : ((s.starts t).wakes t false).1 = some ⟨task.key,s.buffered task.key⟩ := by
    unfold wakes
    rw [htask]
    dsimp only
    rw [if_neg (not_not.mpr hphase),if_neg (by rw [hrequest]; simp),flush_fst]
    change (if (s.starts t).buffered task.key = [] then none else
      some (⟨task.key,(s.starts t).buffered task.key⟩ : Batch Item)) = _
    rw [hbuffered,if_neg hitems]
  have hanswers : answers step s [.starts t,.wakes t false] = [none,((s.starts t).wakes t false).1] := rfl
  rw [hanswers,hwakes]
  simp [batches,List.reduceOption]

/-- The handler is never called with nothing. -/
theorem step_nonempty (s : BurstCoalescer Item Time) (c : Choice Item Time) :
    ∀ batch, (s.step c).1 = some batch → batch.items ≠ [] := by
  have hflush : ∀ (u : BurstCoalescer Item Time) (current : Option ℕ) (key : String) (batch : Batch Item),
      (u.flush current key).1 = some batch → batch.items ≠ [] := by
    intro u current key batch hbatch
    rw [flush_fst] at hbatch
    split_ifs at hbatch with hitems
    obtain rfl := Option.some.inj hbatch
    exact hitems
  intro batch hbatch
  cases c with
  | submit current key item now =>
    have hsubmit : (s.submit current key item now).1 = some batch := hbatch
    unfold submit at hsubmit
    dsimp only at hsubmit
    split_ifs at hsubmit
    exact hflush _ current key batch hsubmit
  | starts t => cases hbatch
  | wakes t swallowed =>
    have hwakes : (s.wakes t swallowed).1 = some batch := hbatch
    unfold wakes at hwakes
    split at hwakes
    · cases hwakes
    · split_ifs at hwakes
      · exact hflush _ (some t) _ batch hwakes
      · exact hflush _ (some t) _ batch hwakes
  | handled current failed => cases hbatch

variable [Zero Time] [Max Time]

/-- Whatever is submitted for a key is handed over once and in order, or is buffered under a timer that
will hand it over. -/
theorem delivered_once (windowS maxWaitS : Time) (run : List (Choice Item Time)) (key : String) :
    let start : BurstCoalescer Item Time := .new windowS maxWaitS
    let s := after step start run
    (batches key (answers step start run)).flatten ++ s.buffered key = submissions key run ∧
      [] ∉ batches key (answers step start run) ∧
      (s.buffered key ≠ [] → ∃ t, s.timers.get key = some t ∧ s.pending key t ∧
        batches key (answers step s [.starts t,.wakes t false]) = [s.buffered key]) ∧
      ((∀ t, ¬s.pending key t) → (batches key (answers step start run)).flatten = submissions key run) := by
  intro start s
  have hflow : (batches key (answers step start run)).flatten ++ s.buffered key = submissions key run := by
    rw [batches_flatten,submissions_eq]
    exact outflow (buffered · key) (submissions key [·]) (handedTo key) (step_flow key) start run
  have hall : Along step (fun _ _ => True) start run := .of_forall fun _ _ => trivial
  have harmed : s.Armed := hall.invariant (fun u c hu _ => step_armed u c hu) (new_armed windowS maxWaitS)
  have htimer : s.buffered key ≠ [] → ∃ t, s.timers.get key = some t ∧ s.pending key t := by
    intro hitems
    obtain ⟨t,ht⟩ := Option.ne_none_iff_exists'.mp (harmed.buffered key hitems)
    exact ⟨t,ht,harmed.timers key t ht⟩
  refine ⟨hflow,fun hempty => ?_,fun hitems => ?_,fun hrest => ?_⟩
  · obtain ⟨batch,hbatch,hitems⟩ := List.mem_map.mp hempty
    have hcall : some batch ∈ answers step start run := List.reduceOption_mem_iff.mp (List.mem_filter.mp hbatch).1
    have hnonempty : ∀ call ∈ answers step start run, ∀ b, call = some b → b.items ≠ [] :=
      forall_answers (fun call => ∀ b : Batch Item, call = some b → b.items ≠ []) step_nonempty start run
    exact hnonempty (some batch) hcall batch rfl hitems
  · obtain ⟨t,ht,hpending⟩ := htimer hitems
    exact ⟨t,ht,hpending,wakes_delivers hpending hitems⟩
  · have hempty : s.buffered key = [] := by
      by_contra hitems
      obtain ⟨t,-,hpending⟩ := htimer hitems
      exact hrest t hpending
    rw [hempty,List.append_nil] at hflow
    exact hflow

end

end BurstCoalescer
end Arbora.Messaging
