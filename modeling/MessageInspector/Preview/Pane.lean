import MessageInspector.Report
/-!
# The preview pane

At most one preview is mounted, and it is disposed of before the next one goes in. Every mounted
preview gets a number of its own.
-/
namespace MessageInspector.Preview

structure Mounted where
  widget : Nat
  preview : ContentPreview
deriving DecidableEq, Repr

/-- The mounted preview, the number given out last and how many previews were disposed of. -/
structure Pane where
  mounted : Option Mounted
  lastWidget : Nat
  disposed : Nat
deriving DecidableEq, Repr

namespace Pane

def empty : Pane := ⟨none, 0, 0⟩

instance : Inhabited Pane := ⟨empty⟩

def dispose (pane : Pane) : Pane :=
  match pane.mounted with
  | some _ => { pane with mounted := none, disposed := pane.disposed + 1 }
  | none => pane

def disposeReports (pane : Pane) : List Report :=
  match pane.mounted with
  | some old => [.disposed old.widget]
  | none => []

def nextWidget (pane : Pane) : Nat := pane.lastWidget + 1

def mount (pane : Pane) (preview : ContentPreview) : Pane :=
  { pane.dispose with mounted := some ⟨pane.nextWidget, preview⟩, lastWidget := pane.nextWidget }

def mountReports (pane : Pane) (preview : ContentPreview) : List Report :=
  pane.disposeReports ++ [.mounting preview.kind pane.nextWidget]

end Pane
end MessageInspector.Preview
