import LiosTunnel.Route.State

/-!
# The user's resolv.conf over many sessions

Linux sessions in default mode back `/etc/resolv.conf` up to one fixed path, overwrite it, and
restore it from that path. The backup is the last thing applied but the overwrite, and it stays
when the session is over, so a session that stops before its own copy is restored from the copy of
an earlier one. What is there afterwards is the backup as the session's apply left it, or the
content itself where there is no backup; `history_restores_iff` says when this is the content the
session began with, for every session of every history.

* `Session`: a session, with the point where its apply stopped and the replays that were cut short.
* `Session.Runs`: a session from its beginning to its complete revert.
* `History`: sessions one after the other, with edits by others between them.
-/

namespace LiosTunnel.Route

/-- The number of commands before the copy of `/etc/resolv.conf`: the pin and the halves. -/
def RoutePlan.backUpAt (plan : RoutePlan) : ℕ := plan.halves.length + 1

/-! ## Frames -/

theorem Kernel.runAll_of_routeOp {cs : List RouteCommand} (hcs : ∀ c ∈ cs, (routeOp c).isSome)
    {k k' : Kernel} (h : k.runAll cs = some k') :
    k'.resolvConf = k.resolvConf ∧ k'.backup = k.backup := by
  induction cs generalizing k with
  | nil =>
    obtain rfl := Option.some.inj h
    exact ⟨rfl, rfl⟩
  | cons c cs ih =>
    rw [Kernel.runAll_cons, Option.bind_eq_some_iff] at h
    obtain ⟨k₁, h₁, h⟩ := h
    obtain ⟨hconf, hback⟩ := Kernel.effect_of_routeOp (hcs c List.mem_cons_self) h₁
    obtain ⟨hconf', hback'⟩ := ih (fun c' hc' => hcs c' (List.mem_cons_of_mem _ hc')) h
    exact ⟨hconf'.trans hconf, hback'.trans hback⟩

/-- What every part of a revert keeps: the backup, and the content where there is no backup. -/
structure Kernel.KeepsBackup (k k' : Kernel) : Prop where
  backup : k'.backup = k.backup
  content : k.backup = none → k'.resolvConf = k.resolvConf

theorem Kernel.KeepsBackup.refl (k : Kernel) : k.KeepsBackup k := ⟨rfl, fun _ => rfl⟩

theorem Kernel.KeepsBackup.trans {k k₁ k₂ : Kernel} (h : k.KeepsBackup k₁)
    (h' : k₁.KeepsBackup k₂) : k.KeepsBackup k₂ := by
  refine ⟨h'.backup.trans h.backup, fun hnone => ?_⟩
  rw [h'.content (h.backup.trans hnone), h.content hnone]

theorem Linux.effect_restore (k : Kernel) :
    k.effect restore = k.backup.map fun t => { k with resolvConf := some t } := rfl

theorem Linux.torn_restore (k : Kernel) (left : Text) :
    k.torn restore left =
      if k.backup.isSome then { k with resolvConf := some left } else k := rfl

theorem Kernel.keepsBackup_attempt {c : RouteCommand}
    (hc : (routeOp c).isSome ∨ c = Linux.restore) (k : Kernel) :
    k.KeepsBackup ((k.effect c).getD k) := by
  rcases h : k.effect c with _ | k'
  · exact .refl k
  · rcases hc with hc | rfl
    · obtain ⟨hconf, hback⟩ := Kernel.effect_of_routeOp hc h
      exact ⟨hback, fun _ => hconf⟩
    · rw [Linux.effect_restore, Option.map_eq_some_iff] at h
      obtain ⟨t, ht, rfl⟩ := h
      exact ⟨rfl, fun hnone => by rw [ht] at hnone; cases hnone⟩

theorem Kernel.keepsBackup_torn {c : RouteCommand}
    (hc : (routeOp c).isSome ∨ c = Linux.restore) (k : Kernel) (left : Text) :
    k.KeepsBackup (k.torn c left) := by
  rcases hc with hc | rfl
  · rw [Kernel.torn_of_routeOp hc]
    exact .refl k
  · rw [Linux.torn_restore]
    split_ifs with hsome
    · exact ⟨rfl, fun hnone => by rw [hnone] at hsome; cases hsome⟩
    · exact .refl k

theorem Kernel.keepsBackup_attemptAll {cs : List RouteCommand}
    (hcs : ∀ c ∈ cs, (routeOp c).isSome ∨ c = Linux.restore) (k : Kernel) :
    k.KeepsBackup (k.attemptAll cs) := by
  induction cs generalizing k with
  | nil => exact .refl k
  | cons c cs ih =>
    rw [Kernel.attemptAll_cons]
    refine (Kernel.keepsBackup_attempt (hcs c List.mem_cons_self) k).trans ?_
    exact ih (fun c' hc' => hcs c' (List.mem_cons_of_mem _ hc')) _

/-! ## An apply that is cut short -/

section

variable {rs : List RouteCommand} {ds : List IpAddr} {left : Option Text} {k k₁ : Kernel}

/-- Cut among the route commands. -/
theorem Kernel.cut_before_backUp (hroute : ∀ c ∈ rs, (routeOp c).isSome) {n : ℕ}
    (hn : n < rs.length)
    (h : k.cut (rs ++ [Linux.backUp, Linux.overwrite ds]) n left = some k₁) :
    k₁.resolvConf = k.resolvConf ∧ k₁.backup = k.backup := by
  obtain ⟨k₂, hrun, heq⟩ := Option.map_eq_some_iff.1 h
  rw [List.take_append_of_le_length hn.le] at hrun
  rw [List.getElem?_append_left hn, List.getElem?_eq_getElem hn] at heq
  have hk : k₁ = k₂ := by
    rw [← heq]
    cases left with
    | none => rfl
    | some t => exact Kernel.torn_of_routeOp (hroute _ (List.getElem_mem hn)) _ _
  rw [hk]
  exact Kernel.runAll_of_routeOp (fun c hc => hroute c (List.mem_of_mem_take hc)) hrun

/-- Cut at the copy, which may have begun to write. -/
theorem Kernel.cut_at_backUp (hroute : ∀ c ∈ rs, (routeOp c).isSome)
    (h : k.cut (rs ++ [Linux.backUp, Linux.overwrite ds]) rs.length left = some k₁) :
    k₁.resolvConf = k.resolvConf ∧
      k₁.backup = if k.resolvConf.isSome then left.or k.backup else k.backup := by
  obtain ⟨k₂, hrun, heq⟩ := Option.map_eq_some_iff.1 h
  rw [List.take_left] at hrun
  rw [List.getElem?_append_right le_rfl, Nat.sub_self, List.getElem?_cons_zero] at heq
  obtain ⟨hconf, hback⟩ := Kernel.runAll_of_routeOp hroute hrun
  cases left with
  | none =>
    obtain rfl : k₂ = k₁ := heq
    exact ⟨hconf, by rw [hback, Option.none_or, ite_self]⟩
  | some t =>
    obtain rfl : k₂.torn Linux.backUp t = k₁ := heq
    rw [Kernel.torn, if_pos rfl, hconf]
    split
    · exact ⟨rfl, rfl⟩
    · exact ⟨hconf, hback⟩

/-- Cut after the copy, whatever the overwrite did. -/
theorem Kernel.cut_after_backUp (hroute : ∀ c ∈ rs, (routeOp c).isSome) (m : ℕ)
    (h : k.cut (rs ++ [Linux.backUp, Linux.overwrite ds]) (rs.length + (m + 1)) left = some k₁) :
    k₁.backup = k.resolvConf ∧ k.resolvConf.isSome := by
  obtain ⟨k₂, hrun, heq⟩ := Option.map_eq_some_iff.1 h
  rw [List.take_length_add_append, List.take_succ_cons, Kernel.runAll_append,
    Option.bind_eq_some_iff] at hrun
  obtain ⟨k₃, h₃, hrun⟩ := hrun
  obtain ⟨hconf, -⟩ := Kernel.runAll_of_routeOp hroute h₃
  rw [Kernel.runAll_cons, Option.bind_eq_some_iff] at hrun
  obtain ⟨k₄, h₄, hrun⟩ := hrun
  obtain ⟨t, ht, rfl⟩ : ∃ t, k₃.resolvConf = some t ∧ { k₃ with backup := some t } = k₄ :=
    Option.map_eq_some_iff.1 h₄
  have hback : k₁.backup = k₂.backup := by
    have hget : (rs ++ [Linux.backUp, Linux.overwrite ds])[rs.length + (m + 1)]? =
        [Linux.overwrite ds][m]? := by
      rw [List.getElem?_append_right (by omega), Nat.add_sub_cancel_left, List.getElem?_cons_succ]
    rw [← heq, hget]
    cases m with
    | zero => cases left <;> rfl
    | succ m => rfl
  have hback₂ : k₂.backup = some t := by
    cases m with
    | zero =>
      obtain rfl := Option.some.inj hrun
      rfl
    | succ m =>
      rw [List.take_succ_cons, List.take_nil, Kernel.runAll_cons] at hrun
      obtain rfl := Option.some.inj hrun
      rfl
  rw [hback, hback₂, ← hconf, ht]
  exact ⟨rfl, rfl⟩

end

/-! ## Sessions -/

/-- A Linux session in default mode. Its apply had the effect of `ran` commands and then stopped:
killed, failed or finished; the command it stopped at may have left something in the file it was
writing. Each of the replays attempted some commands and stopped in the same way. -/
structure Session where
  plan : RoutePlan
  mode_eq : plan.mode = .default
  pid : BitVec 32
  ran : ℕ
  left : Option Text
  replays : List (ℕ × Option Text)

namespace Session

variable (s : Session)

/-- The machine when the apply has stopped. -/
def applied (k : Kernel) : Option Kernel :=
  match linuxRoutes.applyCommands s.plan with
  | .ok cs => k.cut cs s.ran s.left
  | .error _ => none

/-- One replay of the revert commands that is cut short. -/
def replay (k : Kernel) (r : ℕ × Option Text) : Kernel :=
  match linuxRoutes.revertCommands s.plan with
  | .ok rs =>
    match rs[r.1]?, r.2 with
    | some c, some t => (k.attemptAll (rs.take r.1)).torn c t
    | _, _ => k.attemptAll (rs.take r.1)
  | .error _ => k

/-- The revert that is not cut short: by the guard, if the apply returned one, or by the recovery
of a later start, which finds the record of this session. -/
inductive Finish (k : Kernel) : Kernel → Prop
  | guard (stderr : Kernel → RouteCommand → Text) (hran : s.plan.backUpAt + 2 ≤ s.ran) :
    Finish k (RouteGuard.revertNow (.sound stderr) ⟨linuxRoutes, s.plan, true⟩ k).2
  | recovery (os : Os) (path : Text) (stderr : Kernel → RouteCommand → Text)
    {rs : List RouteCommand} (hrs : linuxRoutes.revertCommands s.plan = .ok rs)
    (hdead : processIsAlive os s.pid = false) (hpid : s.pid ≠ os.pid) :
    Finish k (recoverIfStale os path (.sound stderr) (.record ⟨s.plan.interface, rs, s.pid⟩) k).2.2

/-- The whole session: the apply, the replays that were cut short, and the revert. -/
def Runs (k k' : Kernel) : Prop :=
  ∃ k₁, s.applied k = some k₁ ∧ s.Finish (s.replays.foldl s.replay k₁) k'

/-- The backup file of a session whose own copy has not completed: what the copy left, if it had
begun, and otherwise what earlier sessions left. -/
def leftover (k : Kernel) : Option Text :=
  if s.ran = s.plan.backUpAt ∧ k.resolvConf.isSome then s.left.or k.backup else k.backup

/-- The session brings `/etc/resolv.conf` back: its copy completed, or the backup file is missing
or already has the content. -/
def KeepsResolvConf (k : Kernel) : Prop :=
  s.plan.backUpAt < s.ran ∨ s.leftover k = none ∨ s.leftover k = k.resolvConf

variable {s}

/-- Every way `RouteGuard::apply` ends is a way a session's apply stops. -/
theorem exists_of_apply {sh : Shell} {k : Kernel} :
    ∃ ran left, { s with ran := ran, left := left }.applied k =
      some (RouteGuard.apply sh linuxRoutes s.plan k).2 := by
  obtain ⟨rs, hcs, -, -⟩ := Linux.applyCommands_default s.mode_eq
  simp only [applied, RouteGuard.apply, hcs]
  rcases hrun : runCommands sh 0 (rs ++ [Linux.backUp, Linux.overwrite s.plan.dnsServers]) k with
    ⟨e | u, k'⟩
  · obtain ⟨n, left, -, hcut, -⟩ := runCommands_error hrun
    exact ⟨n, left, hcut⟩
  · refine ⟨(rs ++ [Linux.backUp, Linux.overwrite s.plan.dnsServers]).length, none, ?_⟩
    rw [Kernel.cut, List.take_length, runCommands_ok hrun]
    simp

/-- **What the apply leaves**: an untouched content and the leftover backup, up to its own copy;
the content in the backup, after it. -/
theorem applied_resolvConf {k k₁ : Kernel} (h : s.applied k = some k₁) :
    (s.ran ≤ s.plan.backUpAt ∧ k₁.backup = s.leftover k ∧ k₁.resolvConf = k.resolvConf) ∨
    (s.plan.backUpAt < s.ran ∧ k₁.backup = k.resolvConf ∧ k.resolvConf.isSome) := by
  obtain ⟨rs, hcs, hroute, hlen⟩ := Linux.applyCommands_default s.mode_eq
  simp only [applied, hcs] at h
  rw [← RoutePlan.backUpAt] at hlen
  rcases Nat.lt_trichotomy s.ran s.plan.backUpAt with hlt | hran | hgt
  · obtain ⟨hconf, hback⟩ := Kernel.cut_before_backUp hroute (hlen ▸ hlt) h
    have hne : ¬s.ran = s.plan.backUpAt := by omega
    exact Or.inl ⟨hlt.le, by rw [hback, leftover, if_neg fun h => hne h.1], hconf⟩
  · rw [hran, ← hlen] at h
    obtain ⟨hconf, hback⟩ := Kernel.cut_at_backUp hroute h
    refine Or.inl ⟨hran.le, ?_, hconf⟩
    simp only [hback, leftover, hran, true_and]
  · obtain ⟨m, hm⟩ : ∃ m, s.ran = rs.length + (m + 1) := ⟨s.ran - rs.length - 1, by omega⟩
    rw [hm] at h
    exact Or.inr ⟨hgt, Kernel.cut_after_backUp hroute m h⟩

theorem mem_revert {rs : List RouteCommand} (hroute : ∀ c ∈ rs, (routeOp c).isSome) :
    ∀ c ∈ rs ++ [Linux.restore], (routeOp c).isSome ∨ c = Linux.restore := by
  intro c hc
  rcases List.mem_append.1 hc with hc | hc
  · exact Or.inl (hroute c hc)
  · exact Or.inr (List.mem_singleton.1 hc)

theorem keepsBackup_replay (k : Kernel) (r : ℕ × Option Text) : k.KeepsBackup (s.replay k r) := by
  obtain ⟨rs, hrs, hroute⟩ := Linux.revertCommands_default s.mode_eq
  have hall := mem_revert hroute
  have hattempt : k.KeepsBackup (k.attemptAll ((rs ++ [Linux.restore]).take r.1)) :=
    Kernel.keepsBackup_attemptAll (fun c hc => hall c (List.mem_of_mem_take hc)) k
  simp only [replay, hrs]
  split
  · rename_i c t hc ht
    exact hattempt.trans (Kernel.keepsBackup_torn (hall c (List.mem_of_getElem? hc)) _ t)
  · exact hattempt

theorem keepsBackup_replays (rs : List (ℕ × Option Text)) (k : Kernel) :
    k.KeepsBackup (rs.foldl s.replay k) := by
  induction rs generalizing k with
  | nil => exact .refl k
  | cons r rs ih => exact (keepsBackup_replay k r).trans (ih _)

/-- However it comes about, the revert attempts the whole list. -/
theorem finish_eq {k k' : Kernel} (h : s.Finish k k') :
    ∃ rs, (∀ c ∈ rs, (routeOp c).isSome) ∧ k' = k.attemptAll (rs ++ [Linux.restore]) := by
  obtain ⟨rs, hrs, hroute⟩ := Linux.revertCommands_default s.mode_eq
  refine ⟨rs, hroute, ?_⟩
  rcases h with ⟨stderr, -⟩ | ⟨os, path, stderr, hrs', hdead, hpid⟩
  · simp only [RouteGuard.revertNow, if_true, hrs, tryCommands_sound]
  · obtain rfl := Except.ok.inj (hrs'.symm.trans hrs)
    rw [recoverIfStale_of_dead hdead hpid]
    exact tryCommands_sound _ _ _ _

/-- **What a revert leaves**: the backup, or the content where there is no backup. -/
theorem finish_resolvConf {k k' : Kernel} (h : s.Finish k k') :
    k'.resolvConf = k.backup.or k.resolvConf ∧ k'.backup = k.backup := by
  obtain ⟨rs, hroute, rfl⟩ := finish_eq h
  have hkeep := Kernel.keepsBackup_attemptAll (fun c hc => Or.inl (hroute c hc)) k
  refine ⟨?_, (Kernel.keepsBackup_attemptAll (mem_revert hroute) k).backup⟩
  rw [Kernel.attemptAll_append, Kernel.attemptAll_cons, Linux.effect_restore, hkeep.backup]
  rcases hb : k.backup with _ | t
  · exact hkeep.content hb
  · rfl

/-- **When a session brings `/etc/resolv.conf` back.** -/
theorem runs_resolvConf_iff {k k' : Kernel} (h : s.Runs k k') :
    k'.resolvConf = k.resolvConf ↔ s.KeepsResolvConf k := by
  obtain ⟨k₁, happlied, hfinish⟩ := h
  have hkeep : k₁.KeepsBackup (s.replays.foldl s.replay k₁) := keepsBackup_replays _ _
  have hend : k'.resolvConf = k₁.backup.or k₁.resolvConf := by
    rw [(finish_resolvConf hfinish).1, hkeep.backup]
    rcases hb : k₁.backup with _ | t
    · rw [Option.none_or, Option.none_or, hkeep.content hb]
    · rfl
  rw [hend, KeepsResolvConf]
  rcases applied_resolvConf happlied with ⟨hran, hback, hconf⟩ | ⟨hran, hback, hsome⟩
  · have hnot : ¬s.plan.backUpAt < s.ran := by omega
    rw [hback, hconf, or_iff_right hnot]
    rcases s.leftover k with _ | t
    · simp
    · simp
  · obtain ⟨t, ht⟩ := Option.isSome_iff_exists.1 hsome
    rw [hback, ht]
    simp [hran]

end Session

/-! ## Histories -/

/-- A session of a history, with the machine before it and after it. -/
structure Visit where
  before : Kernel
  session : Session
  after : Kernel

/-- Sessions one after the other. Between two of them others change what they like, but not our
backup file. -/
inductive History : Kernel → List Visit → Kernel → Prop
  | nil (k : Kernel) : History k [] k
  | snoc {k k' b a : Kernel} {vs : List Visit} {s : Session} (h : History k vs k')
    (hedit : b.backup = k'.backup) (hrun : s.Runs b a) : History k (vs ++ [⟨b, s, a⟩]) a

/-- **When the user's resolv.conf comes back**: in every history, each session leaves
`/etc/resolv.conf` as it found it exactly when its copy completed, or when the backup file is
missing or already has the content. -/
theorem history_restores_iff {k k' : Kernel} {vs : List Visit} (h : History k vs k') :
    ∀ v ∈ vs, (v.after.resolvConf = v.before.resolvConf ↔ v.session.KeepsResolvConf v.before) := by
  induction h with
  | nil => simp
  | snoc h hedit hrun ih =>
    intro v hv
    rcases List.mem_append.1 hv with hv | hv
    · exact ih v hv
    · obtain rfl := List.mem_singleton.1 hv
      exact Session.runs_resolvConf_iff hrun

/-- A plan in default mode for an IPv4 server. -/
def cafePlan : RoutePlan where
  interface := "tun0"
  mode := .default
  serverIp := .ofOctets 198 51 100 7
  originalGateway := .ofOctets 192 168 1 1
  dnsServers := [.ofOctets 1 1 1 1]
  ipv6Available := false

/-- A session that ends in order. -/
def wholeSession : Session := ⟨cafePlan, rfl, 4711, 5, none, []⟩

/-- A session killed after its record is written and before its first command. -/
def killedSession : Session := ⟨cafePlan, rfl, 4712, 0, none, []⟩

/-- The machine on its home network, with no backup yet. -/
def homeKernel : Kernel := ⟨fun _ => none, some [.lit "nameserver 10.0.0.1\n"], none, []⟩

/-- The process that finds the record of the killed session. -/
def laterOs : Os := ⟨4800, fun _ => .esrch⟩

/-- After a whole session on one network, a session that is killed on another network before its
copy brings the first network's resolver back. -/
theorem exists_history_stale_backup :
    ∃ k₁ k₂, History homeKernel
      ([⟨homeKernel, wholeSession, k₁⟩] ++
        [⟨{ k₁ with resolvConf := some [.lit "nameserver 172.16.0.1\n"] }, killedSession, k₂⟩]) k₂ ∧
      k₂.resolvConf = some [.lit "nameserver 10.0.0.1\n"] := by
  obtain ⟨k, hk⟩ : ∃ k, wholeSession.applied homeKernel = some k :=
    Option.isSome_iff_exists.1 (by decide +kernel)
  have hback : k.backup = homeKernel.resolvConf := by
    rcases Session.applied_resolvConf hk with ⟨hran, -⟩ | ⟨-, hback, -⟩
    · exact absurd hran (by decide)
    · exact hback
  have hfirst := Session.Finish.guard (s := wholeSession) (k := k) (fun _ _ => []) (by decide)
  have hsecond := Session.Finish.recovery (s := killedSession) (k := {
    (RouteGuard.revertNow (.sound fun _ _ => []) ⟨linuxRoutes, cafePlan, true⟩ k).2 with
      resolvConf := some [.lit "nameserver 172.16.0.1\n"] }) laterOs [] (fun _ _ => []) rfl rfl
    (by decide)
  refine ⟨_, _, .snoc (.snoc (.nil _) rfl ⟨k, hk, hfirst⟩) rfl ⟨_, rfl, hsecond⟩, ?_⟩
  rw [(Session.finish_resolvConf hsecond).1]
  have hkeep :
      (RouteGuard.revertNow (.sound fun _ _ => []) ⟨linuxRoutes, cafePlan, true⟩ k).2.backup
      = k.backup := (Session.finish_resolvConf hfirst).2
  rw [hkeep, hback]
  rfl

/-- On another network, after a session whose commands left `k`. -/
def elsewhere (k : Kernel) : Kernel :=
  { (RouteGuard.revertNow (.sound fun _ _ => []) ⟨linuxRoutes, cafePlan, true⟩ k).2 with
    resolvConf := some [.lit "nameserver 172.16.0.1\n"] }

/-- Two whole sessions, each on its own network: the second brings back what others wrote before
it. -/
theorem history_restores_iff_homeKernel :
    ∃ k₁ k₂, History homeKernel
      ([⟨homeKernel, wholeSession, k₁⟩] ++
        [⟨{ k₁ with resolvConf := some [.lit "nameserver 172.16.0.1\n"] }, wholeSession, k₂⟩]) k₂ ∧
      k₁.resolvConf = homeKernel.resolvConf ∧
      k₂.resolvConf = some [.lit "nameserver 172.16.0.1\n"] := by
  have happlies : ((wholeSession.applied homeKernel).bind fun k =>
      wholeSession.applied (elsewhere k)).isSome = true := by decide +kernel
  obtain ⟨k', hboth⟩ := Option.isSome_iff_exists.1 happlies
  obtain ⟨k, hk, hk'⟩ := Option.bind_eq_some_iff.1 hboth
  have hfirst := Session.Finish.guard (s := wholeSession) (k := k) (fun _ _ => []) (by decide)
  have hsecond := Session.Finish.guard (s := wholeSession) (k := k') (fun _ _ => []) (by decide)
  have hran : wholeSession.plan.backUpAt < wholeSession.ran := by decide
  have hhistory := History.snoc (.snoc (.nil homeKernel) rfl ⟨k, hk, hfirst⟩) (b := elsewhere k) rfl
    ⟨k', hk', hsecond⟩
  have hrestores := history_restores_iff hhistory
  exact ⟨_, _, hhistory,
    (hrestores _ (List.mem_append_left _ (List.mem_singleton.2 rfl))).2 (.inl hran),
    (hrestores _ (List.mem_append_right _ (List.mem_singleton.2 rfl))).2 (.inl hran)⟩

end LiosTunnel.Route
