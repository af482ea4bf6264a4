import Mathlib.Data.List.Nodup
import Launcher.Proofs.Children.World
import Launcher.Proofs.CommandLine.RoundTrip
/-!
# Every child is in exactly one place

However launches, handles and the reaper take turns, every child is in exactly one place: it is
being handled inside a launch or the release of its handle, one live handle holds it, it is with the
reaper once, one wait has collected it, or it has been given up because a wait on it was refused.

The invariant is a balance for each number: as long as the newest child of the number is not
settled, the number is owned once, by an activity, a handle, or the reaper; and after that by
nobody. An activity keeps the balance since it touches only children in its own care, and since what
is left of its dialogue obeys `Launcher.Children.custody` to the end.

## Main definitions

* `Launcher.Children.World.Sound` — the invariant.
* `Launcher.Children.Place` — the places for a child.

## Main results

* `Launcher.Children.World.Sound.step` — every step keeps the invariant.
* `Launcher.Children.exactly_one_place` — in every reachable world every child is in exactly one
  place.
-/

namespace Launcher.Children

open Host Host.Dialogue

/-! ## The invariant -/

/-- An activity under way obeys its care to the end, and its marks are right. -/
structure Activity.Sound {α : Type} (passes : α → Pid → Nat) (r : Records) (a : Activity α) :
    Prop where
  obeys : Obeys custody (fun value s => s.EndsWith (passes value)) a.rest a.care
  marked : r.Marked a.care

/-- **The invariant.** The numbers of children that are still to be settled are owned once, and
every activity obeys its care. -/
structure World.Sound (w : World) : Prop where
  orderly : ∀ pid, Orderly (w.children pid)
  balance : ∀ pid,
    inCare w.tasks pid + inHandles w.handles pid + w.inReaper pid = unsettled (w.children pid)
  tasks : ∀ t ∈ w.tasks, t.activity.Sound holds? w.children
  thread : ∀ a, w.thread = .polling a → a.Sound reaps w.children

/-- The count over two lists is the sum of the two. -/
lemma total_append {α : Type} (count : α → Nat) (as as' : List α) :
    total count (as ++ as') = total count as + total count as' := by
  induction as with
  | nil => exact (Nat.zero_add _).symm
  | cons a as ih =>
    have hcons : ∀ as, total count (a :: as) = count a + total count as := fun _ => rfl
    rw [List.cons_append, hcons, hcons, ih]
    omega

/-- One activity more adds the children in its care. -/
@[simp]
lemma inCare_cons (t : Task) (tasks : List Task) (pid : Pid) :
    inCare (t :: tasks) pid = (t.activity.care pid).count + inCare tasks pid := rfl

/-- The care of two lists of activities is the sum of the two. -/
@[simp]
lemma inCare_append (tasks tasks' : List Task) (pid : Pid) :
    inCare (tasks ++ tasks') pid = inCare tasks pid + inCare tasks' pid :=
  total_append _ _ _

/-- One handle more adds the child that it holds. -/
@[simp]
lemma inHandles_cons (h : Process) (handles : List Process) (pid : Pid) :
    inHandles (h :: handles) pid = holds h pid + inHandles handles pid := rfl

/-- What two lists of handles hold is the sum of the two. -/
@[simp]
lemma inHandles_append (handles handles' : List Process) (pid : Pid) :
    inHandles (handles ++ handles') pid = inHandles handles pid + inHandles handles' pid :=
  total_append _ _ _

/-- A handle that an activity gives back is a live one. -/
lemma inHandles_toList (h : Option Process) (pid : Pid) :
    inHandles h.toList pid = holds? h pid := by
  cases h with
  | none => rfl
  | some h => rfl

/-- What one activity has in its care is in the care of all. -/
lemma inCare_ne_zero {t : Task} {tasks : List Task} {pid : Pid} (ht : t ∈ tasks)
    (hcare : t.activity.care pid ≠ .none) : inCare tasks pid ≠ 0 := by
  obtain ⟨before, after, rfl⟩ := List.append_of_mem ht
  have hcount := Standing.count_ne_zero hcare
  simp only [inCare_append, inCare_cons]
  omega

/-- The activities beside one of all. -/
lemma mem_of_split {tasks before after : List Task} {t : Task}
    (htasks : tasks = before ++ t :: after) : ∀ t' ∈ before ++ after, t' ∈ tasks := by
  intro t' ht'
  rw [htasks]
  exact List.perm_middle.mem_iff.2 (List.mem_cons_of_mem _ ht')

namespace World

variable {w : World} {pid : Pid}

/-- An event leads those children to the reaper that it hands over. -/
lemma inReaper_after (w : World) (e : Event) (pid : Pid) :
    (w.after e).inReaper pid = w.inReaper pid + e.handedOver.count pid := by
  simp only [inReaper, World.after, List.count_append]
  omega

namespace Sound

/-- The balance as one activity of the program sees it. -/
lemma balanced_task {before after : List Task} {t : Task} (hw : w.Sound)
    (htasks : w.tasks = before ++ t :: after) :
    w.children.Balanced t.activity.care fun pid =>
      inCare (before ++ after) pid + inHandles w.handles pid + w.inReaper pid := by
  intro pid
  rw [← hw.balance pid, htasks]
  simp only [inCare_append, inCare_cons]
  omega

/-- The balance as the reaper sees it in a round. -/
lemma balanced_thread {a : Activity Reaper} (hw : w.Sound) (hthread : w.thread = .polling a) :
    w.children.Balanced a.care fun pid =>
      inCare w.tasks pid + inHandles w.handles pid + w.channel.count pid := by
  intro pid
  rw [← hw.balance pid]
  simp only [inReaper, hthread]
  omega

/-- The other activities are not concerned when only children change that none of them has in its
care. -/
lemma tasks_congr {r : Records} {tasks : List Task} (hw : w.Sound)
    (hsub : ∀ t ∈ tasks, t ∈ w.tasks)
    (hsame : ∀ pid, inCare tasks pid ≠ 0 → r pid = w.children pid) :
    ∀ t ∈ tasks, t.activity.Sound holds? r := fun t ht =>
  ⟨(hw.tasks t (hsub t ht)).obeys,
    (hw.tasks t (hsub t ht)).marked.congr fun pid hpid => hsame pid (inCare_ne_zero ht hpid)⟩

/-- The reaper is not concerned when only children change that it does not have. -/
lemma thread_congr {r : Records} {a : Activity Reaper} (hw : w.Sound)
    (hthread : w.thread = .polling a)
    (hsame : ∀ pid, w.inReaper pid ≠ 0 → r pid = w.children pid) : a.Sound reaps r := by
  refine ⟨(hw.thread a hthread).obeys, (hw.thread a hthread).marked.congr fun pid hpid => ?_⟩
  have hcount := Standing.count_ne_zero hpid
  refine hsame pid ?_
  simp only [inReaper, hthread]
  omega

/-! ### Beginnings -/

/-- A request to launch begins with no child in its care. -/
lemma request (hw : w.Sound) (r : Request) :
    World.Sound { w with tasks := ⟨.launch, ⟨.empty, r.dialogue⟩⟩ :: w.tasks } := by
  refine ⟨hw.orderly, fun pid => ?_, fun t ht => ?_, hw.thread⟩
  · have hempty : (Care.empty pid).count = 0 := rfl
    rw [inCare_cons, hempty, Nat.zero_add]
    exact hw.balance pid
  · rcases List.mem_cons.1 ht with rfl | ht
    · exact ⟨r.obeys, fun pid hpid => by cases hpid⟩
    · exact hw.tasks t ht

/-- An activity takes over a handle, and with it the child. -/
lemma takeHandle {before after : List Process} {h : Process} {role : Role}
    {d : Dialogue (Option Process)} (hw : w.Sound) (hhandles : w.handles = before ++ h :: after)
    (hd : Obeys custody (fun h s => s.EndsWith (holds? h)) d (.ofHandle h)) :
    World.Sound { w with
      handles := before ++ after, tasks := ⟨role, ⟨.ofHandle h, d⟩⟩ :: w.tasks } := by
  refine ⟨hw.orderly, fun pid => ?_, fun t ht => ?_, hw.thread⟩
  · have hbalance := hw.balance pid
    rw [hhandles] at hbalance
    simp only [inCare_cons, inHandles_append, inHandles_cons, Care.count_ofHandle] at hbalance ⊢
    have hreaper : World.inReaper { w with
        handles := before ++ after, tasks := ⟨role, ⟨.ofHandle h, d⟩⟩ :: w.tasks } pid =
      w.inReaper pid := rfl
    omega
  · rcases List.mem_cons.1 ht with rfl | ht
    · refine ⟨hd, fun pid hpid => ?_⟩
      by_cases hholds : holds h pid = 1 <;> simp [Care.ofHandle, hholds] at hpid
    · exact hw.tasks t ht

/-- The reaper takes over all children that have arrived, and has each of them once. -/
lemma beginRound {pending : List Pid} (hw : w.Sound) (hthread : w.thread = .resting pending) :
    World.Sound { w with
      channel := []
      thread := .polling ⟨.ofList (pending ++ w.channel),
        Reaper.round { inbox := w.channel, pending }⟩ } := by
  have hreaper : ∀ pid, w.inReaper pid = (pending ++ w.channel).count pid := fun pid => by
    simp only [inReaper, hthread, List.count_append]
    omega
  have hnodup : (pending ++ w.channel).Nodup := by
    refine List.nodup_iff_count_le_one.2 fun pid => ?_
    have hle := unsettled_le_one (w.children pid)
    have hbalance := hw.balance pid
    rw [hreaper] at hbalance
    omega
  refine ⟨hw.orderly, fun pid => ?_, hw.tasks, fun a ha => ?_⟩
  · have hcount : (Care.ofList (pending ++ w.channel) pid).count = w.inReaper pid := by
      rw [hreaper]
      by_cases hpid : pid ∈ pending ++ w.channel
      · rw [List.count_eq_one_of_mem hnodup hpid, Care.ofList, if_pos hpid]
        rfl
      · rw [List.count_eq_zero_of_not_mem hpid, Care.ofList, if_neg hpid]
        rfl
    have hbalance := hw.balance pid
    rw [← hcount] at hbalance
    simpa [inReaper] using hbalance
  · cases ha
    refine ⟨obeys_round hnodup, fun pid hpid => ?_⟩
    by_cases hmem : pid ∈ pending ++ w.channel <;> simp [Care.ofList, hmem] at hpid

/-! ### Answers -/

/-- The host answers a call of an activity of the program. -/
lemma answer {before after : List Task} {role : Role} {care : Care} {c : Call}
    {next : c.Answer → Dialogue (Option Process)} (hw : w.Sound) (answer : c.Answer)
    (htasks : w.tasks = before ++ ⟨role, ⟨care, .ask c next⟩⟩ :: after)
    (hadmits : w.children.Admits (event ⟨c, answer⟩)) :
    World.Sound { w.after (event ⟨c, answer⟩) with
      tasks := before ++ ⟨role, ⟨care.after (event ⟨c, answer⟩), next answer⟩⟩ :: after } := by
  have hmine := hw.tasks ⟨role, ⟨care, .ask c next⟩⟩ (by simp [htasks])
  have hallows : care.Allows (event ⟨c, answer⟩) := hmine.obeys.1 answer
  have hbalance := hw.balanced_task htasks
  have hframe : ∀ pid,
      inCare (before ++ after) pid + inHandles w.handles pid + w.inReaper pid ≠ 0 →
      w.children.after (event ⟨c, answer⟩) pid = w.children pid :=
    fun pid => hbalance.after_eq hallows hadmits
  refine ⟨hbalance.orderly_after hw.orderly hallows hadmits, fun pid => ?_, fun t ht => ?_,
    fun a ha => hw.thread_congr ha fun pid hpid => hframe pid (by omega)⟩
  · have hafter := hbalance.after hallows hadmits pid
    have hreaper := w.inReaper_after (event ⟨c, answer⟩) pid
    simp only [inCare_append, inCare_cons] at hafter ⊢
    show _ + (w.after _).inReaper pid = unsettled (w.children.after _ pid)
    rw [hreaper, ← hafter]
    show _ + inHandles w.handles pid + _ = _
    omega
  · rcases List.mem_cons.1 (List.perm_middle.mem_iff.1 ht) with rfl | ht
    · exact ⟨hmine.obeys.2 answer, hbalance.marked_after hmine.marked hallows⟩
    · exact hw.tasks_congr (mem_of_split htasks) (fun pid hpid => hframe pid (by omega)) t ht

/-- The host answers a call of the reaper. -/
lemma answerReaper {care : Care} {c : Call} {next : c.Answer → Dialogue Reaper} (hw : w.Sound)
    (answer : c.Answer) (hthread : w.thread = .polling ⟨care, .ask c next⟩)
    (hadmits : w.children.Admits (event ⟨c, answer⟩)) :
    World.Sound { w.after (event ⟨c, answer⟩) with
      thread := .polling ⟨care.after (event ⟨c, answer⟩), next answer⟩ } := by
  have hmine := hw.thread _ hthread
  have hallows : care.Allows (event ⟨c, answer⟩) := hmine.obeys.1 answer
  have hbalance := hw.balanced_thread hthread
  have hframe : ∀ pid, inCare w.tasks pid + inHandles w.handles pid + w.channel.count pid ≠ 0 →
      w.children.after (event ⟨c, answer⟩) pid = w.children pid :=
    fun pid => hbalance.after_eq hallows hadmits
  have hothers : ∀ pid, inCare w.tasks pid ≠ 0 →
      w.children.after (event ⟨c, answer⟩) pid = w.children pid :=
    fun pid hpid => hframe pid (by omega)
  refine ⟨hbalance.orderly_after hw.orderly hallows hadmits, fun pid => ?_,
    hw.tasks_congr (fun t ht => ht) hothers, fun a ha => ?_⟩
  · have hafter := hbalance.after hallows hadmits pid
    simp only [inReaper, World.after, List.count_append] at hafter ⊢
    omega
  · cases ha
    exact ⟨hmine.obeys.2 answer, hbalance.marked_after hmine.marked hallows⟩

/-! ### Endings -/

/-- An activity of the program is over. -/
lemma finish {before after : List Task} {role : Role} {care : Care} {h : Option Process}
    (hw : w.Sound) (htasks : w.tasks = before ++ ⟨role, ⟨care, .done h⟩⟩ :: after) :
    World.Sound { w with
      children := w.children.leave care (holds? h)
      tasks := before ++ after
      handles := h.toList ++ w.handles } := by
  have hmine := hw.tasks ⟨role, ⟨care, .done h⟩⟩ (by simp [htasks])
  have hend : care.EndsWith (holds? h) := hmine.obeys
  have hbalance := hw.balanced_task htasks
  have hframe : ∀ pid,
      inCare (before ++ after) pid + inHandles w.handles pid + w.inReaper pid ≠ 0 →
      w.children.leave care (holds? h) pid = w.children pid :=
    fun pid => hbalance.leave_eq
  refine ⟨hbalance.orderly_leave hw.orderly hmine.marked hend, fun pid => ?_, ?_,
    fun a ha => hw.thread_congr ha fun pid hpid => hframe pid (by omega)⟩
  · have hleave := hbalance.leave hend pid
    rw [inHandles_append, inHandles_toList, ← hleave]
    show inCare (before ++ after) pid + _ + w.inReaper pid = _
    omega
  · have hothers : ∀ pid, inCare (before ++ after) pid ≠ 0 →
        w.children.leave care (holds? h) pid = w.children pid :=
      fun pid hpid => hframe pid (by omega)
    exact hw.tasks_congr (mem_of_split htasks) hothers

/-- A round of the reaper is over. -/
lemma endRound {care : Care} {r : Reaper} (hw : w.Sound)
    (hthread : w.thread = .polling ⟨care, .done r⟩) :
    World.Sound { w with
      children := w.children.leave care (reaps r)
      channel := r.inbox ++ w.channel
      thread := .resting r.pending } := by
  have hmine := hw.thread _ hthread
  have hend : care.EndsWith (reaps r) := hmine.obeys
  have hbalance := hw.balanced_thread hthread
  have hframe : ∀ pid, inCare w.tasks pid + inHandles w.handles pid + w.channel.count pid ≠ 0 →
      w.children.leave care (reaps r) pid = w.children pid :=
    fun pid => hbalance.leave_eq
  have hothers : ∀ pid, inCare w.tasks pid ≠ 0 →
      w.children.leave care (reaps r) pid = w.children pid :=
    fun pid hpid => hframe pid (by omega)
  refine ⟨hbalance.orderly_leave hw.orderly hmine.marked hend, fun pid => ?_,
    hw.tasks_congr (fun t ht => ht) hothers, fun a ha => by cases ha⟩
  have hleave := hbalance.leave hend pid
  simp only [inReaper, List.count_append, ← hleave, reaps]
  omega

/-- A child ends. -/
lemma exit (hw : w.Sound) (pid : Pid) :
    World.Sound { w with children := w.children.amend pid (·.exit) } := by
  refine ⟨Records.orderly_exit hw.orderly pid, fun q => ?_, fun t ht => ?_, fun a ha => ?_⟩
  · rw [Records.unsettled_exit]
    exact hw.balance q
  · exact ⟨(hw.tasks t ht).obeys, (hw.tasks t ht).marked.exit pid⟩
  · exact ⟨(hw.thread a ha).obeys, (hw.thread a ha).marked.exit pid⟩

/-! ### Runs -/

/-- In the beginning there is nothing. -/
lemma init : World.Sound {} :=
  ⟨fun pid => ⟨fun c hc => (by cases hc), fun c hc => (by cases hc)⟩, fun pid => rfl,
    fun t ht => (by cases ht), fun a ha => (by cases ha)⟩

/-- **Every step keeps the invariant.** -/
theorem step {w' : World} (hw : w.Sound) (hstep : Step w w') : w'.Sound := by
  cases hstep with
  | request r => exact hw.request r
  | use o hhandles => exact hw.takeHandle hhandles (o.obeys _)
  | drop hhandles => exact hw.takeHandle hhandles (obeys_releaseDialogue _)
  | answer a htasks hadmits => exact hw.answer a htasks hadmits
  | finish htasks => exact hw.finish htasks
  | exit pid => exact hw.exit pid
  | beginRound hthread => exact hw.beginRound hthread
  | answerReaper a hthread hadmits => exact hw.answerReaper a hthread hadmits
  | endRound hthread => exact hw.endRound hthread

/-- Every reachable world is sound, by induction along its run. -/
lemma of_reachable (h : Reachable w) : w.Sound := by
  induction h with
  | refl => exact init
  | tail _ hstep ih => exact ih.step hstep

end Sound

end World

/-! ## Places -/

/-- The places for a child. -/
inductive Place where
  /-- It is being handled inside a launch or the release of its handle. -/
  | handled
  /-- A live handle holds it. -/
  | held
  /-- It is in the channel of the reaper, or the reaper polls it. -/
  | inReaper
  /-- A wait has collected it. -/
  | collected
  /-- It was given up because a wait on it was refused. -/
  | givenUp
  deriving Repr, DecidableEq

/-- How often a child with a number is in a place. The number stands for it as long as it was not
given to the children in `newer` after it. -/
def World.times (w : World) (pid : Pid) (newer : List Child) (c : Child) : Place → Nat
  | .handled => if newer = [] then w.handled pid else 0
  | .held => if newer = [] then w.held pid else 0
  | .inReaper => if newer = [] then w.inReaper pid else 0
  | .collected => c.collects
  | .givenUp => c.gaveUp

/-- What is in the care of an activity is in that of one that uses a handle, or of another. -/
lemma inCare_filter (tasks : List Task) (pid : Pid) :
    inCare (tasks.filter fun t => t.role ≠ .use) pid +
      inCare (tasks.filter fun t => t.role = .use) pid = inCare tasks pid := by
  induction tasks with
  | nil => rfl
  | cons t tasks ih =>
    rw [inCare_cons, ← ih]
    by_cases hrole : t.role = .use
    · rw [List.filter_cons_of_neg (by simp [hrole]), List.filter_cons_of_pos (by simp [hrole]),
        inCare_cons]
      omega
    · rw [List.filter_cons_of_pos (by simp [hrole]), List.filter_cons_of_neg (by simp [hrole]),
        inCare_cons]
      omega

/-- A child is in one place once, all places taken together. -/
lemma World.Sound.sum_times {w : World} (hw : w.Sound) {pid : Pid} {newer older : List Child}
    {c : Child} (hc : w.children pid = newer ++ c :: older) :
    w.times pid newer c .handled + w.times pid newer c .held + w.times pid newer c .inReaper +
      c.collects + c.gaveUp = 1 := by
  have horderly := hw.orderly pid
  have honce : c.collects + c.gaveUp = if c.settled then 1 else 0 :=
    horderly.once c (by simp [hc])
  cases newer with
  | nil =>
    have hbalance := hw.balance pid
    have htasks := inCare_filter w.tasks pid
    rw [hc, List.nil_append, unsettled] at hbalance
    have howned : w.handled pid + w.held pid + w.inReaper pid = if c.settled then 0 else 1 := by
      rw [← hbalance, ← htasks, World.handled, World.held]
      omega
    simp only [World.times, if_true, howned]
    cases hsettled : c.settled with
    | true =>
      rw [hsettled, if_pos rfl] at honce
      rw [if_pos rfl]
      omega
    | false =>
      rw [hsettled, if_neg (by simp)] at honce
      rw [if_neg (by simp)]
      omega
  | cons d newer =>
    have hsettled : c.settled := horderly.older c (by simp [hc])
    rw [hsettled, if_pos rfl] at honce
    simp only [World.times, reduceCtorEq, if_false]
    omega

/-- **Every child is in exactly one place**, in every world that a program can come to, whatever the
host has answered. A child that has ended, was never refused to a wait, has not been collected, and
is neither being handled nor held by a handle is with the reaper. No child is collected by two
waits.

**Proof sketch.** The number of a child that is not settled is owned once, as the invariant says; a
settled one has been collected once or has been given up. So the counts of all places together are
1. The two other statements are about children for which only one place is left. -/
theorem exactly_one_place {w : World} (h : Reachable w) {pid : Pid} {newer older : List Child}
    {c : Child} (hc : w.children pid = newer ++ c :: older) :
    (∃ place, ∀ place', w.times pid newer c place' = if place' = place then 1 else 0) ∧
    (c.ended → c.collects = 0 → (∀ e, .error e ∉ c.waits) →
      w.times pid newer c .handled = 0 → w.times pid newer c .held = 0 →
      w.times pid newer c .inReaper = 1) ∧
    c.collects ≤ 1 := by
  have hsum := (World.Sound.of_reachable h).sum_times hc
  refine ⟨?_, fun _ hcollects hrefused hhandled hheld => ?_, by omega⟩
  · have hcollected : w.times pid newer c .collected = c.collects := rfl
    have hgivenUp : w.times pid newer c .givenUp = c.gaveUp := rfl
    rw [← hcollected, ← hgivenUp] at hsum
    obtain ⟨place, hplace⟩ : ∃ place, w.times pid newer c place = 1 := by
      have hone : w.times pid newer c .handled = 1 ∨ w.times pid newer c .held = 1 ∨
          w.times pid newer c .inReaper = 1 ∨ w.times pid newer c .collected = 1 ∨
          w.times pid newer c .givenUp = 1 := by
        omega
      rcases hone with h | h | h | h | h <;> exact ⟨_, h⟩
    refine ⟨place, fun place' => ?_⟩
    cases place <;> cases place' <;> simp <;> omega
  · have hgaveUp : c.gaveUp = 0 := by
      refine if_neg fun hleft => ?_
      obtain ⟨e, he⟩ := Child.exists_of_lastRefused hleft.2
      exact hrefused e he
    omega

/-- A child that runs when its launch has given it up, and then ends. -/
theorem exactly_one_place_of_detached :
    ∃ w c, Reachable w ∧ w.children 7 = [] ++ c :: [] ∧ c.ended ∧ c.collects = 0 ∧
      w.times 7 [] c .inReaper = 1 := by
  let config : Config := ⟨{ Draft.ofCommand "true" with completion := .detach }, by decide⟩
  let process : Start :=
    { program := "true", arguments := [], directory := none, ownGroup := false, streams := {} }
  have hsplit : CommandLine.split config.commandLine = ["true"] := by
    have hjoin : CommandLine.join ["true"] = .ok config.commandLine := rfl
    rw [CommandLine.split_of_join hjoin]
    simp
  obtain ⟨next, hstart, next', hpoll, next'', hadopt, hdone⟩ :
      ∃ next, (Request.tryLaunch config).dialogue = .ask (.start process) next ∧
      ∃ next', next (.ok 7) = .ask (.poll 7) next' ∧
      ∃ next'', next' (.ok none) = .ask (.adopt 7) next'' ∧ next'' () = .done none := by
    rw [Request.dialogue, tryLaunch, Launch.start, hsplit]
    exact ⟨_, rfl, _, rfl, _, rfl, rfl⟩
  have halone : ∀ t : Task, [t] = [] ++ t :: [] := fun t => rfl
  have hrequest := Relation.ReflTransGen.tail (.refl : Reachable {}) (.request (.tryLaunch config))
  rw [hstart] at hrequest
  have hstarted := hrequest.tail (.answer (c := .start process) (.ok 7) (halone _) nofun)
  rw [hpoll] at hstarted
  have hpolled := hstarted.tail (.answer (c := .poll 7) (.ok none) (halone _) trivial)
  rw [hadopt] at hpolled
  have hadopted := hpolled.tail (.answer (c := .adopt 7) () (halone _) trivial)
  rw [hdone] at hadopted
  have hexit := (hadopted.tail (.finish (halone _))).tail (.exit 7)
  let c : Child := { ended := true, waits := [.ok none] }
  have hrefused : ∀ e, .error e ∉ c.waits := by simp [c]
  obtain ⟨-, hzombie, -⟩ := @exactly_one_place _ hexit 7 [] [] c rfl
  exact ⟨_, c, hexit, rfl, rfl, rfl, hzombie rfl rfl hrefused rfl rfl⟩

end Launcher.Children
