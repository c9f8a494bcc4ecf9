/-
What a cloner does to a world, act by act.

A cloner logs events, calls its tool, and copies RPMs at hand into the output directory. All its
operations are made of these acts, so that what each of the acts keeps, every operation keeps, however
it ends.

* **`Act`**, **`Acts`** — one act, and one after another;
* **`acts_whatProvides`**, **`acts_obtain`**, **`acts_ensure`** — acts on the world;
* **`acts_clonePackage`**, **`acts_restore`** — acts that a cloner keeps a record of.
-/
import Mathlib.Logic.Relation
import Mathlib.Tactic.SplitIfs
import RpmProvision.Proofs.Step
import RpmProvision.Tdnf.Cloner

namespace RpmProvision.Tdnf

open Step

/-- One act: an event is logged, the tool is called, or an RPM at hand is copied, if it can be. -/
inductive Act (tools : Tools) (env : Environment) (w : World) : World → Prop
  | logs (e : Event) : Act tools env w (w.record e)
  | calls {subcommand : String} (hsub : subcommand = "provides" ∨ subcommand = "install")
      (rest : List String) :
      Act tools env w (World.spawn tools "tdnf" (env.baseArgs ++ subcommand :: rest) w).2
  | copies {package : String} {source : Path} (hfind : env.localRpms.find? package = some source) :
      Act tools env w
        { w with disk := (Disk.copy source (env.rpmPath package) w.disk).2 }

/-- One act after another. -/
def Acts (tools : Tools) (env : Environment) : World → World → Prop :=
  Relation.ReflTransGen (Act tools env)

variable {tools : Tools} {env : Environment} {w : World}

/-! ### The world -/

theorem acts_log (level : Level) (source : Source) (message : String) :
    Maintains (Acts tools env w) (World.log (ε := Error) level source message) :=
  .modify fun _ hw => hw.tail (.logs _)

theorem acts_call {subcommand : String} (hsub : subcommand = "provides" ∨ subcommand = "install")
    (rest : List String) : Maintains (Acts tools env w) (call tools env (subcommand :: rest)) :=
  .bind (acts_log ..) fun _ => .mapError ⟨fun _ hw => hw.tail (.calls hsub rest)⟩

theorem acts_download (cloneDeps : Bool) (package : String) :
    Maintains (Acts tools env w) (download tools env cloneDeps package) := by
  refine .bind (acts_call (.inr rfl) _) fun reply => ?_
  split_ifs
  · exact .fail _
  · refine .bind (.asks _) fun there => ?_
    split_ifs
    · exact .pure _
    · exact .fail _

theorem acts_whatProvides (r : Requirement) :
    Maintains (Acts tools env w) (whatProvides tools env r) := by
  refine .bind (acts_call (.inl rfl) _) fun reply => ?_
  dsimp only
  split_ifs
  · exact .pure _
  · exact .fail _
  · exact .bind (acts_log ..) fun _ => .pure _

theorem acts_copyLocal {package : String} {source : Path}
    (hfind : env.localRpms.find? package = some source) :
    Maintains (Acts tools env w) (copyLocal env package source) := by
  unfold copyLocal
  dsimp only
  split_ifs
  · exact .pure _
  · exact .mapError ⟨fun _ hw => hw.tail (.copies hfind)⟩

theorem acts_obtain (cloneDeps : Bool) (package : String) :
    Maintains (Acts tools env w) (obtain tools env cloneDeps package) := by
  unfold obtain
  cases hfind : env.localRpms.find? package with
  | none => exact .bind (acts_download ..) fun _ => .pure _
  | some source =>
    refine .bind (acts_copyLocal hfind) fun _ => ?_
    cases cloneDeps with
    | false => exact .pure _
    | true => exact .bind (acts_download ..) fun _ => .pure _

theorem acts_ensure (name : String) : Maintains (Acts tools env w) (ensure tools env name) := by
  refine .bind (.asks _) fun there => ?_
  split_ifs
  · exact .pure _
  cases hfind : env.localRpms.find? name with
  | none => exact .bind (acts_log ..) fun _ => acts_download ..
  | some source => exact acts_copyLocal hfind

/-! ### The session -/

theorem acts_onWorld {α : Type} {x : Step World Error α} (hx : Maintains (Acts tools env w) x) :
    Maintains (fun s : Session Contents => Acts tools env w s.world) (Session.onWorld x) :=
  .within fun s hs => hx.of_run s.world hs

theorem acts_look {α : Type} (f : Disk → Except Error α) :
    Maintains (fun s : Session Contents => Acts tools env w s.world)
      (Session.onWorld (World.look f)) := acts_onWorld (.of_eq fun _ => rfl)

theorem acts_record (before : SortedSet String) (package : String) (prebuilt : Bool) :
    Maintains (fun s => Acts tools env w s.world) (record env before package prebuilt) :=
  .bind (acts_look _) fun _ => .bind (.forM (fun _ => acts_onWorld (acts_log ..)) _) fun _ =>
    .modify fun _ hs => hs

theorem acts_clonePackage (cloneDeps : Bool) (package : String) :
    Maintains (fun s => Acts tools env w s.world) (clonePackage tools env cloneDeps package) :=
  .bind (acts_look _) fun _ => .bind (acts_onWorld (acts_obtain ..)) fun _ =>
    .bind (acts_record ..) fun _ => .pure _

theorem acts_restore (summary : Summary) :
    Maintains (fun s => Acts tools env w s.world) (restore tools env summary) :=
  .bind (.forM (fun _ => acts_onWorld (acts_ensure _)) _) fun _ => .modify fun _ hs => hs

end RpmProvision.Tdnf
