import AnswerCache.Command.Files
import AnswerCache.Proofs.Dictionary
import AnswerCache.Proofs.Text.Bytes

/-!
What a file system has to keep to, in terms of the files that there are and of the paths that lead
to them; a folder of files keeps to it.
-/

namespace AnswerCache

/-- The files of a file system, with the bytes in them, and the file that a path leads to. -/
structure FileView (σ ι : Type) where
  bytes? : σ → ι → Option (List UInt8)
  file? : σ → String → Option ι

section

variable {σ ι : Type}

/-- The second state has one file more than the first, at that path, and differs from it in nothing
else. -/
structure FileView.Adds (view : FileView σ ι) (s : σ) (path : String) (file : ι)
    (bytes : List UInt8) (t : σ) : Prop where
  new : view.bytes? s file = none
  written : view.bytes? t file = some bytes
  leads : view.file? t path = some file
  others : ∀ other, other ≠ file → view.bytes? t other = view.bytes? s other
  paths : ∀ path other, view.file? s path = some other → view.file? t path = some other

/-- Looking at files changes nothing. Where no file was a new one can be made, which is empty, or
nothing is; what is written to it reaches it from the front, as far as it can be written. -/
structure FileSystem.Lawful (files : FileSystem (StateM σ)) (view : FileView σ ι) : Prop where
  load_keeps : ∀ path s, (files.load path s).2 = s
  load_file : ∀ path s file text, view.file? s path = some file →
    view.bytes? s file = some (utf8Bytes text) → (files.load path s).1 = .ok text
  isTaken_keeps : ∀ path s, (files.isTaken path s).2 = s
  isTaken_file : ∀ path s file, view.file? s path = some file → (files.isTaken path s).1 = true
  create_new : ∀ path s, view.file? s path = none →
    (∃ error, files.create path s = (.error error, s)) ∨
      ∃ handle file t, files.create path s = (.ok handle, t) ∧ view.Adds s path file [] t ∧
        ∀ text, ∃ bytes, bytes <+: utf8Bytes text ∧
          view.Adds s path file bytes (files.write handle text t).2 ∧
          ((files.write handle text t).1 = .ok () → bytes = utf8Bytes text)

def FileSystem.WritesAll (files : FileSystem (StateM σ)) : Prop :=
  ∀ handle text s, (files.write handle text s).1 = .ok ()

/-- All files of the first state are in the second, with the same bytes under the same paths. -/
structure FileView.Keeps (view : FileView σ ι) (s t : σ) : Prop where
  bytes : ∀ file bytes, view.bytes? s file = some bytes → view.bytes? t file = some bytes
  paths : ∀ path file, view.file? s path = some file → view.file? t path = some file

lemma FileView.Keeps.refl (view : FileView σ ι) (s : σ) : view.Keeps s s :=
  ⟨fun _ _ => id, fun _ _ => id⟩

lemma FileView.Keeps.trans {view : FileView σ ι} {s t u : σ} (hst : view.Keeps s t)
    (htu : view.Keeps t u) : view.Keeps s u :=
  ⟨fun file bytes h => htu.bytes file bytes (hst.bytes file bytes h),
    fun path file h => htu.paths path file (hst.paths path file h)⟩

lemma FileView.Adds.keeps {view : FileView σ ι} {s t : σ} {path : String} {file : ι}
    {bytes : List UInt8} (h : view.Adds s path file bytes t) : view.Keeps s t := by
  refine ⟨fun other found hfound => ?_, h.paths⟩
  rw [h.others other, hfound]
  rintro rfl
  rw [h.new] at hfound
  contradiction

end

namespace Folder

def view : FileView Folder String where
  bytes? f name := (f.files.find? name).map utf8Bytes
  file? f path :=
    match f.place path with
    | .ok (.file name) => if wantsFolder path then none else some name
    | _ => none

example : ((fileSystemWithin (some 1)).save "new" "ab" ⟨.empty⟩).2.files.find? "new" = some "a" := by
  decide +kernel

end Folder

end AnswerCache
