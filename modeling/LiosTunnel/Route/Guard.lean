import LiosTunnel.Route.Inverse

/-!
# Running the commands, and the guard

`RouteCommand::run` and `RouteGuard`. A run asks the shell of the machine, which may fail to start
the program, to feed it or to wait for it, or may see it exit with an error; whatever the failure, a
command that writes a file may have left something in it. `RouteGuard::apply` propagates the first
failure and undoes nothing, so it leaves the configuration as it found it exactly when no command
had succeeded before (`apply_error_unchanged_iff`).

* `RouteCommand.run`, `runCommands`: one command and a list of them, stopping at the first failure.
* `RouteGuard.apply`, `RouteGuard.revertNow`: the guard.
* `Kernel.cut`: the machine after the first commands of a list and part of the next one.
-/

namespace LiosTunnel.Route

open KeyedStore

/-- What goes wrong with a command, other than the machine refusing it. -/
inductive Failure
  | spawn (e : Text)
  | stdin (e : Text)
  | wait (e : Text)
  | exit (stderr : Text)
  deriving DecidableEq, Repr

/-- `args.join(" ")`. -/
def joinArgs (args : List Piece) : Text := args.intersperse (.lit " ")

/-- The error of `RouteCommand::run`. -/
def Failure.error (c : RouteCommand) : Failure → TunnelError
  | .spawn e => .route ([.lit "cannot execute `", .lit c.program, .lit "`: "] ++ e)
  | .stdin e => .route ([.lit "cannot write to `", .lit c.program, .lit "`'s stdin: "] ++ e)
  | .wait e => .route ([.lit "cannot execute `", .lit c.program, .lit "`: "] ++ e)
  | .exit stderr =>
    .route ([.lit "`", .lit c.program, .lit " "] ++ joinArgs c.args ++
      [.lit "` failed: "] ++ stderr)

/-- The shell commands run in: what happens to the `i`-th command of a run, with what a failing one
leaves in the file it writes; and what a refused command prints. -/
structure Shell where
  failure : ℕ → Option (Failure × Option Text)
  stderr : Kernel → RouteCommand → Text

/-- The shell in which nothing fails but what the machine refuses. -/
def Shell.sound (stderr : Kernel → RouteCommand → Text) : Shell := ⟨fun _ => none, stderr⟩

/-- What a command cut short leaves behind: `cp` and `dd` may leave anything in the file they
write, `cp` only once it has opened its source. A route command is done or not done. -/
def Kernel.torn (k : Kernel) (c : RouteCommand) (left : Text) : Kernel :=
  if c = Linux.backUp then if k.resolvConf.isSome then { k with backup := some left } else k
  else if c = Linux.restore then
    if k.backup.isSome then { k with resolvConf := some left } else k
  else if c.program = "dd" then { k with resolvConf := some left }
  else k

/-- `RouteCommand::run`, as the `i`-th command of a run. -/
def RouteCommand.run (sh : Shell) (i : ℕ) (c : RouteCommand) (k : Kernel) :
    Except TunnelError Unit × Kernel :=
  match sh.failure i with
  | some (f, left) => (.error (f.error c), left.elim k (k.torn c))
  | none =>
    match k.effect c with
    | some k' => (.ok (), k')
    | none => (.error (Failure.error c (.exit (sh.stderr k c))), k)

/-- The loop `for cmd in cmds { cmd.run()?; }`, from the `i`-th command. -/
def runCommands (sh : Shell) : ℕ → List RouteCommand → Kernel → Except TunnelError Unit × Kernel
  | _, [], k => (.ok (), k)
  | i, c :: cs, k =>
    match c.run sh i k with
    | (.error e, k') => (.error e, k')
    | (.ok (), k') => runCommands sh (i + 1) cs k'

/-- The loop of a revert, in which a failure is logged and the next command runs. -/
def tryCommands (sh : Shell) : ℕ → List RouteCommand → Kernel → Kernel
  | _, [], k => k
  | i, c :: cs, k => tryCommands sh (i + 1) cs (c.run sh i k).2

/-- `route::RouteGuard`. -/
structure RouteGuard where
  manager : RouteManager
  plan : RoutePlan
  active : Bool

/-- `RouteGuard::apply`. -/
def RouteGuard.apply (sh : Shell) (manager : RouteManager) (plan : RoutePlan) (k : Kernel) :
    Except TunnelError RouteGuard × Kernel :=
  match manager.applyCommands plan with
  | .error e => (.error e, k)
  | .ok cmds =>
    match runCommands sh 0 cmds k with
    | (.error e, k') => (.error e, k')
    | (.ok (), k') => (.ok ⟨manager, plan, true⟩, k')

/-- `RouteGuard::revert_now`, which `Drop` calls. -/
def RouteGuard.revertNow (sh : Shell) (g : RouteGuard) (k : Kernel) : RouteGuard × Kernel :=
  if g.active then
    match g.manager.revertCommands g.plan with
    | .ok cmds => ({ g with active := false }, tryCommands sh 0 cmds k)
    | .error _ => ({ g with active := false }, k)
  else (g, k)

/-! ## A run that is cut short -/

/-- The machine after the first `n` commands of a list, the next one having left `left`, if it had
begun to write; `none` when one of the first `n` is refused. -/
def Kernel.cut (k : Kernel) (cs : List RouteCommand) (n : ℕ) (left : Option Text) :
    Option Kernel :=
  (k.runAll (cs.take n)).map fun k' =>
    match cs[n]?, left with
    | some c, some t => k'.torn c t
    | _, _ => k'

theorem Kernel.torn_routes (k : Kernel) (c : RouteCommand) (left : Text) :
    (k.torn c left).routes = k.routes := by
  unfold Kernel.torn
  split_ifs <;> rfl

/-- A command that is neither `cp` nor `dd` leaves nothing behind. -/
theorem Kernel.torn_of_routeOp {c : RouteCommand} (h : (routeOp c).isSome) (k : Kernel)
    (left : Text) : k.torn c left = k := by
  have hdns : ¬c.isDns = true := by
    intro hdns
    rw [routeOp_of_isDns hdns] at h
    cases h
  have hbackUp : c ≠ Linux.backUp := by rintro rfl; exact hdns rfl
  have hrestore : c ≠ Linux.restore := by rintro rfl; exact hdns rfl
  have hdd : c.program ≠ "dd" := fun hdd => hdns (by simp [RouteCommand.isDns, hdd])
  simp only [Kernel.torn, hbackUp, hrestore, hdd, if_false]

/-- A command that succeeds has its effect. -/
theorem RouteCommand.run_ok {sh : Shell} {i : ℕ} {c : RouteCommand} {k k' : Kernel} {u : Unit}
    (h : c.run sh i k = (.ok u, k')) : k.effect c = some k' := by
  unfold RouteCommand.run at h
  split at h
  · cases h
  · split at h
    · rename_i heffect
      cases h
      exact heffect
    · cases h

/-- A command that fails leaves the machine as it was, but for what it wrote. -/
theorem RouteCommand.run_error {sh : Shell} {i : ℕ} {c : RouteCommand} {k k' : Kernel}
    {e : TunnelError} (h : c.run sh i k = (.error e, k')) :
    ∃ left : Option Text, k' = left.elim k (k.torn c) := by
  unfold RouteCommand.run at h
  split at h
  · rename_i f left hf
    cases h
    exact ⟨left, rfl⟩
  · split at h
    · cases h
    · cases h
      exact ⟨none, rfl⟩

/-- **Where a failing run stops**: after some commands that took their effect, at one that
failed. -/
theorem runCommands_error {sh : Shell} {i : ℕ} {cs : List RouteCommand} {k k' : Kernel}
    {e : TunnelError} (h : runCommands sh i cs k = (.error e, k')) :
    ∃ n left, n < cs.length ∧ k.cut cs n left = some k' ∧
      (n = 0 ↔ ∃ c cs' e', cs = c :: cs' ∧ (c.run sh i k).1 = .error e') := by
  induction cs generalizing i k with
  | nil => cases h
  | cons c cs ih =>
    rw [runCommands] at h
    rcases hrun : c.run sh i k with ⟨_ | _, k₁⟩ <;> rw [hrun] at h
    · cases h
      obtain ⟨left, rfl⟩ := RouteCommand.run_error hrun
      refine ⟨0, left, by simp, ?_, ?_⟩
      · cases left <;> rfl
      · simp [hrun]
    · obtain ⟨n, left, hn, hcut, -⟩ := ih h
      refine ⟨n + 1, left, by simpa using hn, ?_, ?_⟩
      · rw [Kernel.cut, List.take_succ_cons, Kernel.runAll_cons, RouteCommand.run_ok hrun,
          Option.bind_some, List.getElem?_cons_succ]
        exact hcut
      · simp [hrun]

/-- A run in which every command succeeds. -/
theorem runCommands_ok {sh : Shell} {i : ℕ} {cs : List RouteCommand} {k k' : Kernel} {u : Unit}
    (h : runCommands sh i cs k = (.ok u, k')) : k.runAll cs = some k' := by
  induction cs generalizing i k with
  | nil => cases h; rfl
  | cons c cs ih =>
    rw [runCommands] at h
    rcases hrun : c.run sh i k with ⟨_ | _, k₁⟩ <;> rw [hrun] at h
    · cases h
    · rw [Kernel.runAll_cons, RouteCommand.run_ok hrun, Option.bind_some]
      exact ih h

/-- A revert in a sound shell attempts every command. -/
theorem tryCommands_sound (stderr : Kernel → RouteCommand → Text) (i : ℕ) (cs : List RouteCommand)
    (k : Kernel) : tryCommands (.sound stderr) i cs k = k.attemptAll cs := by
  induction cs generalizing i k with
  | nil => rfl
  | cons c cs ih =>
    have hstep : (c.run (.sound stderr) i k).2 = (k.effect c).getD k := by
      unfold RouteCommand.run
      cases k.effect c <;> rfl
    rw [tryCommands, ih, hstep, Kernel.attemptAll_cons]

/-! ## What a failing apply leaves -/

/-- The first command of every apply list is a route. -/
theorem routeOp_head_of_apply {p : Platform} {plan : RoutePlan} {c : RouteCommand}
    {cs : List RouteCommand} (h : p.manager.applyCommands plan = .ok (c :: cs)) :
    (routeOp c).isSome := by
  rcases hm : plan.mode with ⟨cidrs, captureDns⟩ | _
  · exact routeOp_of_apply_test hm h c List.mem_cons_self
  · cases p <;>
      simp only [Platform.manager, linuxRoutes, macOsRoutes, Linux.applyCommands,
        MacOs.applyCommands, hm] at h
    · have hc := (List.cons.inj (Except.ok.inj h)).1
      rw [← hc, Linux.routeOp_pinAdd]
      rfl
    · have hc := (List.cons.inj (Except.ok.inj h)).1
      rw [← hc, routeOp_pinCommand_add]
      rfl

/-- The commands of an apply list that took effect changed the routing table, if there are any. -/
theorem routes_ne_of_runAll_take {p : Platform} {plan : RoutePlan} {cs : List RouteCommand}
    (h : p.manager.applyCommands plan = .ok cs) {k k' : Kernel} {n : ℕ} (hn : n < cs.length)
    (hpos : 0 < n) (hrun : k.runAll (cs.take n) = some k') : k'.routes ≠ k.routes := by
  obtain ⟨c, cs', rfl⟩ : ∃ c cs', cs = c :: cs' := by
    cases cs with
    | nil => cases hn
    | cons c cs' => exact ⟨c, cs', rfl⟩
  obtain ⟨m, rfl⟩ : ∃ m, n = m + 1 := ⟨n - 1, by omega⟩
  obtain ⟨op, hop⟩ := Option.isSome_iff_exists.1 (routeOp_head_of_apply h)
  have hroutes := Kernel.runAll_routes hrun
  have hops : routeOps ((c :: cs').take (m + 1)) = op :: routeOps (cs'.take m) := by
    rw [List.take_succ_cons, routeOps_cons, hop]
    rfl
  -- the operations are a beginning of the plan's additions, and not an empty one
  have htake : routeOps ((c :: cs').take (m + 1)) <+: adds plan.entries :=
    routeOps_apply h ▸ routeOps_take (c :: cs') (m + 1)
  obtain ⟨es, -, hes⟩ := List.prefix_map_iff.1 htake
  rw [← adds] at hes
  rw [hes] at hroutes
  obtain ⟨e, es', rfl⟩ : ∃ e es', es = e :: es' := by
    cases es with
    | nil => rw [hops] at hes; cases hes
    | cons e es' => exact ⟨e, es', rfl⟩
  obtain ⟨hnone, hsome⟩ := (runAll_adds hroutes).2.1 e List.mem_cons_self
  intro heq
  rw [heq, hnone] at hsome
  cases hsome

/-- **When a failing apply is all or nothing**: it leaves the routing table and the DNS
configuration as they were exactly when the back end refused the plan, or when its very first
command is the one that fails. -/
theorem apply_error_unchanged_iff {sh : Shell} {p : Platform} {plan : RoutePlan} {k k' : Kernel}
    {e : TunnelError} (h : RouteGuard.apply sh p.manager plan k = (.error e, k')) :
    k'.config = k.config ↔
      (∃ e', p.manager.applyCommands plan = .error e') ∨
      ∃ c cs e', p.manager.applyCommands plan = .ok (c :: cs) ∧ (c.run sh 0 k).1 = .error e' := by
  unfold RouteGuard.apply at h
  rcases hcs : p.manager.applyCommands plan with e' | cs <;> rw [hcs] at h
  · cases h
    simp
  · rcases hrun : runCommands sh 0 cs k with ⟨e' | u, k₁⟩ <;> simp only [hrun] at h <;> cases h
    obtain ⟨n, left, hn, hcut, hfirst⟩ := runCommands_error hrun
    rw [Kernel.cut, Option.map_eq_some_iff] at hcut
    obtain ⟨k₂, hrun', heq⟩ := hcut
    have hroutes : k'.routes = k₂.routes := by
      rw [← heq]
      split
      · exact Kernel.torn_routes _ _ _
      · rfl
    have hiff : k'.config = k.config ↔ n = 0 := by
      constructor
      · intro hconfig
        by_contra hpos
        refine routes_ne_of_runAll_take hcs hn (by omega) hrun' ?_
        rw [← hroutes]
        exact congrArg Prod.fst hconfig
      · rintro rfl
        obtain rfl : k = k₂ := Option.some.inj hrun'
        obtain ⟨c, cs', rfl⟩ : ∃ c cs', cs = c :: cs' := by
          cases cs with
          | nil => cases hn
          | cons c cs' => exact ⟨c, cs', rfl⟩
        rw [← heq]
        cases left with
        | none => rfl
        | some t =>
          change (k.torn c t).config = k.config
          rw [Kernel.torn_of_routeOp (routeOp_head_of_apply hcs)]
    rw [hiff, hfirst]
    constructor
    · rintro ⟨c, cs', e'', rfl, hfail⟩
      exact Or.inr ⟨c, cs', e'', rfl, hfail⟩
    · rintro (⟨e'', herr⟩ | ⟨c, cs', e'', hok, hfail⟩)
      · cases herr
      · exact ⟨c, cs', e'', Except.ok.inj hok, hfail⟩

/-- A plan that lists one prefix twice; the machine refuses the second addition. -/
def twicePlan : RoutePlan where
  interface := "tun0"
  mode := .test [⟨.ofOctets 93 184 216 0, 24, le_width_listed⟩,
    ⟨.ofOctets 93 184 216 0, 24, le_width_listed⟩] false
  serverIp := .ofOctets 198 51 100 7
  originalGateway := .ofOctets 192 168 1 1
  dnsServers := []
  ipv6Available := false

/-- A machine without routes. -/
def emptyKernel : Kernel := ⟨fun _ => none, none, none, []⟩

/-- The shell of `ip`, whose refusals are the kernel's. -/
def ipShell : Shell := .sound fun _ _ => [.lit "RTNETLINK answers: File exists"]

theorem apply_twicePlan_leaves_route :
    (RouteGuard.apply ipShell linuxRoutes twicePlan emptyKernel).1 =
        .error (.route [.lit "`", .lit "ip", .lit " ", .lit "route", .lit " ", .lit "add", .lit " ",
          .net ⟨.ofOctets 93 184 216 0, 24, by decide⟩, .lit " ", .lit "dev", .lit " ", .lit "tun0",
          .lit "` failed: ", .lit "RTNETLINK answers: File exists"]) ∧
      (RouteGuard.apply ipShell linuxRoutes twicePlan emptyKernel).2.config ≠
        emptyKernel.config := by
  refine ⟨rfl, fun h => ?_⟩
  have hroute := congrFun (congrArg Prod.fst h) (IpNet.dest ⟨.ofOctets 93 184 216 0, 24, by decide⟩)
  cases hroute

theorem apply_error_unchanged_iff_twicePlan :
    (RouteGuard.apply ipShell linuxRoutes twicePlan emptyKernel).2.config = emptyKernel.config ↔
      (∃ e, linuxRoutes.applyCommands twicePlan = .error e) ∨
      ∃ c cs e, linuxRoutes.applyCommands twicePlan = .ok (c :: cs) ∧
        (c.run ipShell 0 emptyKernel).1 = .error e := by
  have herr : RouteGuard.apply ipShell Platform.linux.manager twicePlan emptyKernel =
      (.error _, _) := rfl
  exact apply_error_unchanged_iff herr

end LiosTunnel.Route
