import ModBuild.Proofs.CommandLine.Effects
import ModBuild.Proofs.Template.Argument
import ModBuild.Proofs.Template.Kinds

/-!
# `ModBuild.Proofs.CommandLine.Resolve`: arguments of a template on the command line

A template that is a single `%s` shows what an argument was taken for. That is what was typed,
unless it was taken for a number and the number has a shorter spelling.

* `render_conversion`: a template that is one conversion renders to what this writes.
* `run_resolve`: what is printed for it, in every project.
* `prints_argument`: both of them, with the words of the command line.
-/

set_option autoImplicit false

namespace ModBuild.Proofs.CommandLine

open ModBuild ModBuild.CommandLine ModBuild.Template ModBuild.Proofs.Template ModBuild.Proofs.Text
open ModBuild.Template.Argument (infer)

/-- A conversion holds no token, so its format is a template for what it writes. -/
theorem render_conversion (table : Table) {conversion : Conversion} {arg : Argument} {text : String}
    (h : WrittenAs conversion arg text) (more : List Argument) :
    render table (String.ofList ['%', conversion.letter]) (arg :: more) = .ok text := by
  refine render_eq_ok_iff.mpr ⟨_, ?_, format_conversion h more⟩
  have hfree : TokenFree (String.ofList ['%', conversion.letter]).toList := by
    rw [String.toList_ofList]
    exact tokenFree_of_not_mem (by cases conversion <;> decide)
  exact expand_eq_ok_iff.mpr (settle_of_tokenFree table _ maxPasses hfree)

section

variable {around : Surroundings} {options : Options} {disk : Disk} {cwd : Place}
variable {project : OpenProject} {network : Network} {template text a : String}

/-- A template that renders is printed as a line, and no file changes. -/
theorem run_resolve (hopen : OpenProject.at around.connect around.env disk.files cwd
      options.projectDir options.config = .ok (project, network)) {arguments : List String}
    (h : project.registry.resolve project.context template (arguments.map infer) = .ok text) :
    Command.run around options disk cwd (.resolve template arguments) =
      (disk.files, .wrote (line text)) := by
  rw [run_of_opened (fun _ _ h => by cases h) hopen]
  have hresolve : Command.runResolve project template arguments = .wrote (line text) := by
    unfold Command.runResolve
    rw [h]
  exact Prod.ext rfl hresolve

end

/-- An argument is shown as it was typed, unless it was typed as a number of 64 bits with something
to spare: a plus sign, a zero in front of another digit, or a minus sign on a zero. Then the number
is shown as numbers are written. That is the line that the command prints for the template `%s` in
any project that opens, whatever the argument looks like. -/
theorem prints_argument (a : String) :
    ((infer a).display = a ↔ ¬ ((∃ v : Int64, Signed a.toList v.toInt) ∧ HasSpare a.toList)) ∧
    (∀ v : Int64, Signed a.toList v.toInt → (infer a).display = toString v.toInt) ∧
    ofWords ["resolve", "%s", "--", a] =
      .ok (⟨false, false, none, none⟩, .resolve "%s" [a]) ∧
    ∀ (around : Surroundings) (options : Options) (disk : Disk) (cwd : Place)
      (project : OpenProject) (network : Network),
      OpenProject.at around.connect around.env disk.files cwd options.projectDir
        options.config = .ok (project, network) →
      Command.run around options disk cwd (.resolve "%s" [a]) =
        (disk.files, .wrote (line (infer a).display)) := by
  refine ⟨display_infer_eq_iff, fun v => display_infer_of_signed, rfl, ?_⟩
  intro around options disk cwd project network hopen
  have hrender : project.registry.resolve project.context "%s" [infer a] =
      .ok (infer a).display :=
    render_conversion (project.registry.table project.context) (.text (infer a)) []
  exact run_resolve hopen hrender

/-- A number with zeros in front is printed without them, and a text that is no number as it is. -/
theorem prints_paddedNumber :
    Signed "-007".toList (-7) ∧ (infer "-007").display = "-7" ∧
      (∃ project network, OpenProject.at alone.connect alone.env channelVersion [] none none =
        .ok (project, network)) ∧
      Command.run alone (optionsOf none) channelVersion [] (.resolve "%s" ["-007"]) =
        (channelVersion, .wrote "-7\n") ∧
      Command.run alone (optionsOf none) channelVersion [] (.resolve "%s" ["0x07"]) =
        (channelVersion, .wrote "0x07\n") := by
  obtain ⟨project, network, hopen, -⟩ := opened_channelVersion
  have hnumeral : IsNumeral "007".toList 7 :=
    ⟨by decide, List.all_eq_true.mp (by decide), by decide⟩
  have hspelled : Signed "-007".toList (-7) := .minus hnumeral
  have htext : (infer "0x07").display = "0x07" := by decide +kernel
  -- The first text is read as a number and the second one is not, and both are printed.
  obtain ⟨-, hnumber, -, hprints⟩ := prints_argument "-007"
  obtain ⟨-, -, -, hprints'⟩ := prints_argument "0x07"
  have hshown : (infer "-007").display = "-7" := hnumber (-7) hspelled
  refine ⟨hspelled, hshown, ⟨project, network, hopen⟩, ?_, ?_⟩
  · rw [hprints alone (optionsOf none) channelVersion [] project network hopen, hshown]
    rfl
  · rw [hprints' alone (optionsOf none) channelVersion [] project network hopen, htext]
    rfl

/-- A number with zeros in front is not shown as it was typed. -/
theorem not_shownAsTyped : ¬ ∀ a : String, (infer a).display = a := by
  intro h
  exact absurd (h "007") (by decide +kernel)

end ModBuild.Proofs.CommandLine
