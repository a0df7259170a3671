import FeatureLabels.Proofs.MetricsAccount
import FeatureLabels.Proofs.ReadBack
import FeatureLabels.Proofs.SeparateDomains
import FeatureLabels.Text.Cut
import FeatureLabels.Web

namespace FeatureLabels

open Text

namespace Task

def Unslashed (t : Task) : Prop := '/' ∉ t.target.toList

instance (t : Task) : Decidable t.Unslashed := inferInstanceAs (Decidable (_ ∉ _))

def addOnName? : Task → Option String
  | .cluster _ => none
  | .addOn _ a => some a

/-- The task that a text names: what stands before the first slash is the cluster. -/
def ofText (text : String) : Task :=
  match cutAt '/' text with
  | (c, none) => .cluster c
  | (c, some a) => .addOn c a

variable {t u : Task} {text : String}

theorem text_eq_uncut (t : Task) : t.text = uncut '/' t.target t.addOnName? := by
  cases t <;> rfl

theorem cutAt_text (h : t.Unslashed) : cutAt '/' t.text = (t.target, t.addOnName?) := by
  rw [text_eq_uncut, cutAt_uncut h]

theorem ofText_text (h : t.Unslashed) : ofText t.text = t := by
  rw [ofText, cutAt_text h]
  cases t <;> rfl

theorem text_inj (ht : t.Unslashed) (hu : u.Unslashed) : t.text = u.text ↔ t = u := by
  constructor
  · intro h
    rw [← ofText_text ht, h, ofText_text hu]
  · exact congrArg Task.text

theorem parts_ofText (text : String) :
    (ofText text).target = (cutAt '/' text).1 ∧
      (ofText text).addOnName? = (cutAt '/' text).2 := by
  rw [ofText]
  split <;> rename_i heq <;> rw [heq] <;> exact ⟨rfl, rfl⟩

theorem unslashed_ofText (text : String) : (ofText text).Unslashed := by
  rw [Unslashed, (parts_ofText text).1]
  exact notMem_cutAt '/' text

theorem text_ofText (text : String) : (ofText text).text = text := by
  obtain ⟨htarget, haddOn⟩ := parts_ofText text
  rw [text_eq_uncut, htarget, haddOn, uncut_cutAt]

end Task

namespace Page

def namedTask? (body : String) : Option Task := do
  let json ← Json.ofText? body
  let key ← json.member? "last_key"
  let text ← key.string?
  return .ofText text

theorem namedTask?_diagnostics {op : Operator} {t : Task} (hlast : op.lastTask = some t)
    (h : t.Unslashed) (lastEvent : String) :
    namedTask? (diagnostics.answer lastEvent op).body = some t := by
  have hread : Json.Readable (.object
      [("last_event", .string lastEvent), ("last_key", .string t.text)]) := by
    simp [Json.Readable, Json.ReadableMembers]
  rw [answer, hlast, namedTask?, Json.ofText?_text hread]
  simp [Json.member?, Json.lookup, Json.string?, Task.ofText_text h]

end Page

namespace Operator

variable (op : Operator) (task : Task)

theorem lastTask_run (patience : Option Nat) (send : Call → Sent) :
    (op.run patience send task).2.lastTask = some task := by
  rw [run]
  split
  split
  · split <;> exact lastTask_finish ..
  · exact lastTask_finish ..
  · exact lastTask_finish ..
  · rfl

theorem lines_of_failed {failure : Failure} (h : failure ≠ .cancelled) :
    (op.afterFailure task failure).2.1 =
      [⟨.warn, "reconcile of " ++ task.text ++ (" failed: " ++ failure.message)⟩] := by
  have hline : (op.afterFailure task failure).2.1 =
      [⟨.warn, "reconcile of " ++ task.text ++ " failed: " ++ failure.message⟩] := by
    cases failure with
    | cancelled => exact absurd rfl h
    | _ => rfl
  rw [hline, String.append_assoc]

/-- What is logged about a failure is the text of the task between what the failure alone decides,
and a blank comes after that text. -/
theorem exists_lines_afterFailure (failure : Failure) :
    ∃ level opening closing rest, opening.toList.length = 13 ∧ closing.toList = ' ' :: rest ∧
      ∀ (op : Operator) (task : Task),
        (op.afterFailure task failure).2.1 = [⟨level, opening ++ task.text ++ closing⟩] := by
  by_cases h : failure = .cancelled
  · subst h
    exact ⟨.debug, "Reconcile of ", " cancelled", _, by decide, rfl, fun op task => rfl⟩
  · refine ⟨.warn, "reconcile of ", " failed: " ++ failure.message, "failed: ".toList ++ _,
      by decide, String.toList_append, fun op task => op.lines_of_failed task h⟩

end Operator

/-- Where clusters have no slash in their names, each text is the text of one task. Its parts are
found at the first slash, and the diagnostics page and the log tell the task. -/
theorem texts_nameTasks :
    (∀ t u : Task, t.Unslashed → u.Unslashed → t.text = u.text → t = u) ∧
    (∀ t : Task, t.Unslashed → cutAt '/' t.text = (t.target, t.addOnName?)) ∧
    (∀ text, ∃! t : Task, t.Unslashed ∧ t.text = text) ∧
    (∀ (op : Operator) (patience : Option Nat) (send : Call → Sent) (t : Task)
        (lastEvent : String), t.Unslashed →
      Page.namedTask? (Page.diagnostics.answer lastEvent (op.run patience send t).2).body =
        some t) ∧
    (∀ (op other : Operator) (t u : Task) (failure : Failure), t.Unslashed → u.Unslashed →
      (op.afterFailure t failure).2.1 = (other.afterFailure u failure).2.1 → t = u) ∧
    ∀ (op other : Operator) (t u : Task) (failure failure' : Failure),
      t.Unslashed → u.Unslashed → ' ' ∉ t.text.toList → ' ' ∉ u.text.toList →
      (op.afterFailure t failure).2.1 = (other.afterFailure u failure').2.1 → t = u := by
  refine ⟨fun t u ht hu => (Task.text_inj ht hu).mp, fun t => Task.cutAt_text, ?_, ?_, ?_, ?_⟩
  · intro text
    refine ⟨.ofText text, ⟨Task.unslashed_ofText text, Task.text_ofText text⟩, ?_⟩
    rintro t ⟨ht, rfl⟩
    exact (Task.ofText_text ht).symm
  · intro op patience send t lastEvent ht
    exact Page.namedTask?_diagnostics (op.lastTask_run t patience send) ht lastEvent
  · intro op other t u failure ht hu h
    obtain ⟨level, opening, closing, -, -, -, hlines⟩ := Operator.exists_lines_afterFailure failure
    rw [hlines, hlines] at h
    have htext : t.text = u.text := by simpa using h
    exact (Task.text_inj ht hu).mp htext
  · intro op other t u failure failure' ht hu hblank hblank' h
    obtain ⟨level, opening, closing, rest, hlength, hclosing, hlines⟩ :=
      Operator.exists_lines_afterFailure failure
    obtain ⟨level', opening', closing', rest', hlength', hclosing', hlines'⟩ :=
      Operator.exists_lines_afterFailure failure'
    rw [hlines, hlines'] at h
    have hsame : opening.toList ++ (t.text.toList ++ ' ' :: rest) =
        opening'.toList ++ (u.text.toList ++ ' ' :: rest') := by
      have hlists := congrArg (fun lines => lines.map fun line => line.text.toList) h
      simpa [String.toList_append, hclosing, hclosing'] using hlists
    -- Both kinds of lines open with 13 characters, so the two texts start at the same place, and
    -- each of them ends at the first blank.
    have htails := (List.append_inj hsame (hlength.trans hlength'.symm)).2
    have htext := String.toList_inj.mp (eq_of_append_cons_eq hblank hblank' htails)
    exact (Task.text_inj ht hu).mp htext

/-- A slash in the name of a cluster makes its text that of an add-on as well. -/
example : (Task.cluster "c1/a").text = (Task.addOn "c1" "a").text := rfl

namespace Sample

def oddTask : Task := .addOn "" "/a failed: \"b\""

end Sample

theorem texts_nameTasks_sample :
    Sample.oddTask.Unslashed ∧ cutAt '/' "//a failed: \"b\"" = ("", some "/a failed: \"b\"") ∧
    (∀ t : Task, t.Unslashed → t.text = Sample.oddTask.text → t = Sample.oddTask) ∧
    Page.namedTask? (Page.diagnostics.answer "<time>"
      ((Operator.ofSettings {}).run (some 0) (fun _ => ⟨.ok (), 0⟩) Sample.oddTask).2).body =
        some Sample.oddTask ∧
    ((Operator.ofSettings {}).afterFailure (.cluster "c1") .cancelled).2.1 ≠
      ((Operator.ofSettings {}).afterFailure (.addOn "c1" "") .cancelled).2.1 ∧
    ((Operator.ofSettings {}).afterFailure (.cluster "c1") (.neverReady .cluster)).2.1 ≠
      ((Operator.ofSettings {}).afterFailure (.addOn "c1" "") (.neverReady .addOn)).2.1 := by
  obtain ⟨hinjective, hcut, -, hpage, hline, hlines⟩ := texts_nameTasks
  have hodd : Sample.oddTask.Unslashed := by decide
  have hcluster : (Task.cluster "c1").Unslashed := by decide
  have haddOn : (Task.addOn "c1" "").Unslashed := by decide
  refine ⟨hodd, hcut _ hodd, fun t ht => hinjective t _ ht hodd, hpage _ _ _ _ _ hodd, ?_, ?_⟩
  · intro h
    exact absurd (hline _ _ _ _ _ hcluster haddOn h) (by decide)
  · intro h
    exact absurd (hlines _ _ _ _ _ _ hcluster haddOn (by decide) (by decide) h) (by decide)

end FeatureLabels
