import LiveMarkup.Playground.State
import LiveMarkup.Session

/-! # The way out of the playground

An outlet is a display and a store over a state of their own. Both may fail; a failing display keeps
the later panes from being shown, but not the session from being saved.
-/
namespace LiveMarkup

structure Outlet (ω : Type) where
  put : ω → Pane → String → ω × Except IoError Unit
  set : ω → String → String → ω × Except StoreError Unit

namespace Outlet

variable {ω : Type}

/-- Shows the documents of a report, and then saves its source and format. -/
def present (outlet : Outlet ω) (report : UpdateReport) (w : ω) : ω :=
  let (w, _) := showAll outlet.put (PanelDocuments.ofReport report).shows w
  (Session.saveWith outlet.set w report.source report.format.tag).1

def perform (outlet : Outlet ω) (w : ω) : Request → ω
  | .paint document => (outlet.put w .editor document).1
  | .update .. => w
  | .present report => outlet.present report w

end Outlet
end LiveMarkup
