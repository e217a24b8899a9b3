import AnswerCache.Command.Run
import AnswerCache.Proofs.Command.Config
import AnswerCache.Proofs.Command.Files

/-!
Runs of the command line one after the other: no file is ever changed, the only files made are the
configurations that were asked for, and each is read back as it was in effect.
-/

namespace AnswerCache.Command

lemma code_failure_ne_zero (f : Failure) : (Ending.failure f).code ≠ 0 := by
  change (1 : UInt32) ≠ 0
  decide

lemma code_crash_ne_zero (c : Crash) : (Ending.crash c).code ≠ 0 := by
  cases c
  · change (101 : UInt32) ≠ 0
    decide
  · change (134 : UInt32) ≠ 0
    decide

lemma cut_eq_or_crash (limit : Option Nat) (o : Outcome) :
    o.cut limit = o ∨ limit ≠ none ∧ (o.cut limit).ending = .crash .panic := by
  cases limit with
  | none => exact .inl rfl
  | some n =>
    rw [Outcome.cut]
    split
    · exact .inl rfl
    · exact .inr ⟨Option.some_ne_none n, rfl⟩

/-- What comes of writing a text to a new file at a path: nothing, a file with the front of the text
if not everything goes well, or the file. -/
inductive Attempt {σ ι : Type} (view : FileView σ ι) (fair : Prop) (s : σ) (path text : String) :
    Ending → σ → Prop
  | nothing {ending : Ending} (hcode : ending.code ≠ 0) : Attempt view fair s path text ending s
  | broken {ending : Ending} {file : ι} {bytes : List UInt8} {t : σ} (hunfair : ¬ fair)
      (hcode : ending.code ≠ 0) (hbytes : bytes <+: utf8Bytes text)
      (hadds : view.Adds s path file bytes t) : Attempt view fair s path text ending t
  | whole {file : ι} {t : σ} (hadds : view.Adds s path file (utf8Bytes text) t) :
      Attempt view fair s path text .success t

namespace Attempt

variable {σ ι : Type} {view : FileView σ ι} {fair : Prop} {s t : σ} {path text : String}
  {ending : Ending}

lemma keeps (h : Attempt view fair s path text ending t) : view.Keeps s t := by
  cases h with
  | nothing _ => exact .refl view s
  | broken _ _ _ hadds => exact hadds.keeps
  | whole hadds => exact hadds.keeps

lemma cut {o : Outcome} (h : Attempt view fair s path text o.ending t) (before : List String)
    (limit : Option Nat) : Attempt view (fair ∧ limit = none) s path text
      ((o.behind before).cut limit).ending t := by
  obtain ⟨lines, ending⟩ := o
  rcases cut_eq_or_crash limit (Outcome.behind before ⟨lines, ending⟩) with
    hcut | ⟨hlimit, hcut⟩
  · rw [hcut, Outcome.behind]
    cases h with
    | nothing hcode => exact .nothing hcode
    | broken hunfair hcode hbytes hadds =>
      exact .broken (fun hfair => hunfair hfair.1) hcode hbytes hadds
    | whole hadds => exact .whole hadds
  · rw [hcut]
    have hunfair : ¬ (fair ∧ limit = none) := fun hfair => hlimit hfair.2
    cases h with
    | nothing _ => exact .nothing (code_crash_ne_zero _)
    | broken _ _ hbytes hadds => exact .broken hunfair (code_crash_ne_zero _) hbytes hadds
    | whole hadds => exact .broken hunfair (code_crash_ne_zero _) (List.prefix_refl _) hadds

end Attempt

structure Invocation where
  arguments : List String
  around : Surroundings

variable {σ ι : Type}

def Invocation.run (files : FileSystem (StateM σ)) (i : Invocation) (s : σ) : Outcome × σ :=
  Command.run files i.around i.arguments s

def after (files : FileSystem (StateM σ)) (s : σ) : List Invocation → σ
  | [] => s
  | i :: rest => after files (i.run files s).2 rest

lemma bind_run {α β : Type} (x : StateM σ α) (next : α → StateM σ β) (s : σ) :
    (x >>= next) s = next (x s).1 (x s).2 := rfl

section Lawful

variable {files : FileSystem (StateM σ)} {view : FileView σ ι} (h : files.Lawful view)
include h

lemma loadConfig_keeps (path : Option String) (s : σ) : (loadConfig files path s).2 = s := by
  cases path with
  | none => rfl
  | some path =>
    rw [loadConfig, bind_run, h.load_keeps]
    cases (files.load path s).1 <;> rfl

lemma runTask_keeps (around : Surroundings) (config : CommandConfig) {task : Task}
    (htask : ∀ path, task ≠ .initConfig path) (s : σ) :
    (runTask files around config task s).2 = s := by
  cases task with
  | key path | replay path =>
    rw [runTask, bind_run, h.load_keeps]
    cases (files.load path s).1 <;> rfl
  | initConfig path => exact absurd rfl (htask path)

lemma runTask_initConfig (around : Surroundings) (config : CommandConfig) (path : String) (s : σ) :
    Attempt view files.WritesAll s path config.toJson.prettyText
      (runTask files around config (.initConfig path) s).1.ending
      (runTask files around config (.initConfig path) s).2 := by
  rw [runTask, bind_run, h.isTaken_keeps]
  cases htaken : (files.isTaken path s).1 with
  | true => exact .nothing (code_failure_ne_zero _)
  | false =>
    -- a file that the path leads to would have been seen
    have hnew : view.file? s path = none := by
      by_contra hfile
      obtain ⟨file, hfile⟩ := Option.ne_none_iff_exists'.mp hfile
      rw [h.isTaken_file path s file hfile] at htaken
      contradiction
    rw [if_neg Bool.false_ne_true, bind_run, FileSystem.save, bind_run]
    rcases h.create_new path s hnew with ⟨error, hmade⟩ | ⟨handle, file, t, hmade, -, hwrite⟩
    · rw [hmade]
      exact .nothing (code_failure_ne_zero _)
    · rw [hmade]
      obtain ⟨bytes, hbytes, hadds, hall⟩ := hwrite config.toJson.prettyText
      cases hresult : (files.write handle config.toJson.prettyText t).1 with
      | error error =>
        refine .broken (fun hfair => ?_) (code_failure_ne_zero _) hbytes hadds
        rw [hfair] at hresult
        contradiction
      | ok _ =>
        rw [hall hresult] at hadds
        exact .whole hadds

lemma runRequest_of_failed (around : Surroundings) {r : Request} {s : σ} {failure : Failure}
    (hload : (loadConfig files r.config s).1 = .error failure) :
    runRequest files around r s = (⟨[], .failure failure⟩, s) := by
  rw [runRequest, bind_run, loadConfig_keeps h, hload]
  rfl

lemma runRequest_of_loaded (around : Surroundings) {r : Request} {s : σ} {config : CommandConfig}
    (hload : (loadConfig files r.config s).1 = .ok config) :
    (∃ lines, runRequest files around r s = (⟨lines, .crash .panic⟩, s)) ∨
      runRequest files around r s =
        let task := runTask files around (effective r.json config) r.task s
        ((task.1.behind (opening (effective r.json config))).cut around.printLimit, task.2) := by
  rw [runRequest, bind_run, loadConfig_keeps h, hload]
  let opened : Outcome := ⟨opening (effective r.json config), .success⟩
  rcases cut_eq_or_crash around.printLimit opened with hcut | ⟨-, hcut⟩
  · right
    simp only [opened] at hcut
    simp only [hcut]
    rfl
  · left
    refine ⟨(opened.cut around.printLimit).lines, ?_⟩
    simp only [opened] at hcut ⊢
    simp only [hcut]
    rw [← hcut]
    rfl

lemma runRequest_keeps (around : Surroundings) {r : Request}
    (hr : ∀ path, r.task ≠ .initConfig path) (s : σ) : (runRequest files around r s).2 = s := by
  cases hload : (loadConfig files r.config s).1 with
  | error failure => rw [runRequest_of_failed h around hload]
  | ok config =>
    rcases runRequest_of_loaded h around hload with ⟨lines, hrun⟩ | hrun
    · rw [hrun]
    · rw [hrun]
      exact runTask_keeps h around _ hr s

lemma runRequest_initConfig (around : Surroundings) {r : Request} {path : String}
    (hr : r.task = .initConfig path) (s : σ) :
    ((runRequest files around r s).1.ending.code ≠ 0 ∧ (runRequest files around r s).2 = s) ∨
      ∃ config, loadConfig files r.config s = (.ok config, s) ∧
        Attempt view (files.WritesAll ∧ around.printLimit = none) s path
          (effective r.json config).toJson.prettyText (runRequest files around r s).1.ending
          (runRequest files around r s).2 := by
  cases hload : (loadConfig files r.config s).1 with
  | error failure =>
    rw [runRequest_of_failed h around hload]
    exact .inl ⟨code_failure_ne_zero _, rfl⟩
  | ok config =>
    rcases runRequest_of_loaded h around hload with ⟨lines, hrun⟩ | hrun
    · rw [hrun]
      exact .inl ⟨code_crash_ne_zero _, rfl⟩
    · rw [hrun, hr]
      refine .inr ⟨config, Prod.ext hload (loadConfig_keeps h r.config s), ?_⟩
      exact (runTask_initConfig h around _ path s).cut _ _

end Lawful

structure Invocation.Initializes (i : Invocation) (r : Request) (path : String) : Prop where
  request : parse i.arguments = .run r
  task : r.task = .initConfig path

namespace Invocation

variable {files : FileSystem (StateM σ)} {view : FileView σ ι} {i : Invocation} {s : σ}

lemma run_of_parse {r : Request} (hparse : parse i.arguments = .run r) :
    i.run files s = runRequest files i.around r s := by
  rw [Invocation.run, Command.run, hparse]

lemma run_keeps (h : files.Lawful view) (hi : ∀ r path, ¬ i.Initializes r path) :
    (i.run files s).2 = s := by
  cases hparse : parse i.arguments with
  | help | version | misuse =>
    rw [Invocation.run, Command.run, hparse]
    rfl
  | run r =>
    rw [run_of_parse hparse]
    exact runRequest_keeps h i.around (fun path hr => hi r path ⟨hparse, hr⟩) s

lemma Initializes.attempt (h : files.Lawful view) {r : Request} {path : String}
    (hi : i.Initializes r path) :
    ((i.run files s).1.ending.code ≠ 0 ∧ (i.run files s).2 = s) ∨
      ∃ config, loadConfig files r.config s = (.ok config, s) ∧
        Attempt view (files.WritesAll ∧ i.around.printLimit = none) s path
          (effective r.json config).toJson.prettyText (i.run files s).1.ending
          (i.run files s).2 := by
  rw [run_of_parse hi.request]
  exact runRequest_initConfig h i.around hi.task s

lemma keeps (h : files.Lawful view) (i : Invocation) (s : σ) :
    view.Keeps s (i.run files s).2 := by
  by_cases hi : ∃ r path, i.Initializes r path
  · obtain ⟨r, path, hi⟩ := hi
    rcases hi.attempt h (s := s) with ⟨-, hsame⟩ | ⟨config, -, hattempt⟩
    · rw [hsame]
      exact .refl view s
    · exact hattempt.keeps
  · have hother : ∀ r path, ¬ i.Initializes r path := fun r path hr => hi ⟨r, path, hr⟩
    rw [run_keeps h hother]
    exact .refl view s

end Invocation

end AnswerCache.Command
