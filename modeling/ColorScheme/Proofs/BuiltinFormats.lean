import ColorScheme.Proofs.Registries
import ColorScheme.Proofs.ScriptCommands

/-!
The formats that come with the program. Each prints the whole text of its writer and
does not fail on the way, whatever the scheme, and each is found by its name in any
case.
-/

namespace ColorScheme

namespace Printing

theorem emitLines_append (ls ms : List Text) :
    (emitLines ls >>= fun _ => emitLines ms) = emitLines (ls ++ ms) := by
  simp only [emitLines, emit_bind_emit, Text.ofLines, List.flatMap_append]

end Printing

namespace VimScript

theorem forM_printRow (s : Scheme) {rows : List (String × List String)}
    {entries : List (Token × List Text)}
    (parsed : rows.map (fun row => (Token.parse row.1.toList, row.2.map String.toList)) =
      entries.map fun e => (.ok e.1, e.2)) :
    rows.forM (printRow s) = .emitLines (entries.flatMap (groupLines s)) := by
  induction rows generalizing entries with
  | nil =>
      obtain rfl : entries = [] := List.map_eq_nil_iff.mp parsed.symm
      rfl
  | cons row rows ih =>
      obtain ⟨e, rest, rfl, here, later⟩ := List.map_eq_cons_iff.mp parsed.symm
      obtain ⟨token, groups⟩ := Prod.mk.inj here
      have printed : printRow s row = .emitLines (groupLines s e) := by
        rw [printRow, ← token, Printing.ofExcept_ok_bind, ← groups]
      change (printRow s row >>= fun _ => rows.forM (printRow s)) = _
      rw [printed, ih later.symm, Printing.emitLines_append, List.flatMap_cons]

/-- No name in the table keeps the script from being printed to its end. -/
theorem print_eq (name : Text) (background : Background) (s : Scheme) :
    print name background s = .emit (write name background s) := by
  rw [print, forM_printRow s parse_groupNames, Printing.emitLines_append]
  rfl

end VimScript

/-- The names of the formats that come with the program. -/
def formatNames : List Text :=
  ["definition", "vim", "pygments", "preview"].map String.toList

/-- What the formats that come with the program write, by their names. -/
def writings (terminal : Preview.Terminal) (schemeName : Text) (background : Background) :
    List (Text × (Scheme → Text)) :=
  [("definition".toList, Definition.write),
    ("vim".toList, VimScript.write schemeName background),
    ("pygments".toList, StyleModule.write schemeName),
    ("preview".toList, Preview.writeWith terminal)]

variable (terminal : Preview.Terminal)

theorem names_writings (schemeName : Text) (background : Background) :
    (writings terminal schemeName background).map (·.1) = formatNames := rfl

namespace Format

/-- The format has the name and prints what is written. -/
def Prints (f : Format) (writing : Text × (Scheme → Text)) : Prop :=
  f.name = writing.1 ∧ ∀ s, f.print s = .emit (writing.2 s)

theorem prints_builtin (settings : Settings) : List.Forall₂ Prints (builtin terminal settings)
    (writings terminal settings.schemeName settings.background) := by
  have definition : canonicalName "colorport::format::definition::Definition".toList =
      "definition".toList := by decide +kernel
  have vim : canonicalName "colorport::format::vim::Vim".toList = "vim".toList := by
    decide +kernel
  have pygments : canonicalName "colorport::format::pygments::Pygments".toList =
      "pygments".toList := by decide +kernel
  have preview : canonicalName "colorport::format::preview::Preview".toList =
      "preview".toList := by decide +kernel
  exact .cons ⟨definition, fun _ => rfl⟩ (.cons ⟨vim, VimScript.print_eq _ _⟩
    (.cons ⟨pygments, fun _ => rfl⟩ (.cons ⟨preview, fun _ => rfl⟩ .nil)))

theorem find?_of_prints {formats : List Format} {ws : List (Text × (Scheme → Text))}
    (h : List.Forall₂ Prints formats ws) (name : Text) :
    (∀ write, ws.lookup name = some write → ∃ f, (formats.find? fun f => f.name = name) = some f ∧
      ∀ s, f.print s = .emit (write s)) ∧
    (ws.lookup name = none → (formats.find? fun f => f.name = name) = none) := by
  induction h with
  | nil => exact ⟨fun _ h => (nomatch h), fun _ => rfl⟩
  | @cons f w formats ws prints _ ih =>
      obtain ⟨own, printed⟩ := prints
      rw [lookup_cons_eq, List.find?_cons]
      by_cases same : name = w.1
      · rw [if_pos same, decide_eq_true (own.trans same.symm)]
        exact ⟨fun write h => ⟨f, rfl, Option.some.inj h ▸ printed⟩, fun h => (nomatch h)⟩
      · rw [if_neg same, decide_eq_false fun e => same (e.symm.trans own)]
        exact ih

theorem names_of_prints {formats : List Format} {ws : List (Text × (Scheme → Text))}
    (h : List.Forall₂ Prints formats ws) : formats.map (·.name) = ws.map (·.1) := by
  induction h with
  | nil => rfl
  | cons prints _ ih => rw [List.map_cons, List.map_cons, prints.1, ih]

end Format

namespace Registry

/-- The formats that come with the program are found by their names in any case, and
print what they write; no others are found. -/
theorem builtinWith_eq_ok (settings : Settings) : ∃ r, builtinWith terminal settings = .ok r ∧
    r.require "definition".toList = .ok .definition ∧
    ∀ name s, (Printing.ofExcept (r.require name) >>= fun f => f.print s) =
      match (writings terminal settings.schemeName settings.background).lookup
        (Text.lowercase name) with
      | some write => .emit (write s)
      | none => .ofExcept (.error (.unknownFormat name)) := by
  have prints := Format.prints_builtin terminal settings
  have distinct : ((Format.builtin terminal settings).map (·.name)).Nodup := by
    rw [Format.names_of_prints prints, names_writings]
    decide
  obtain ⟨r, added, found⟩ := ofList_of_distinct distinct
  refine ⟨r, added, ?_, fun name s => ?_⟩
  · have lower : Text.lowercase "definition".toList = "definition".toList := by decide
    have own : Format.definition.name = "definition".toList := by
      obtain ⟨own, -⟩ := (List.forall₂_cons.mp prints).1
      exact own
    have first : (Format.builtin terminal settings).find? (fun f => f.name = "definition".toList) =
        some .definition := by
      rw [Format.builtin, List.find?_cons, decide_eq_true own]
    rw [require, found, lower, first]
  · obtain ⟨there, absent⟩ := Format.find?_of_prints prints (Text.lowercase name)
    rw [require, found]
    cases wanted : (writings terminal settings.schemeName settings.background).lookup
        (Text.lowercase name) with
    | none => rw [absent wanted]; rfl
    | some write =>
        obtain ⟨f, there, printed⟩ := there write wanted
        rw [there]
        exact printed s

end Registry
end ColorScheme
