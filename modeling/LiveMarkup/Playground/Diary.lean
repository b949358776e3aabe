import LiveMarkup.Playground.Run
import LiveMarkup.Engine.Script

/-! # Diaries of runs

A diary writes down what happens in a run and when. It stands in for display and store: every pane
and the store can be made to fail, and the values set are kept in memory.
-/
namespace LiveMarkup

inductive DiaryEntry where
  | event (e : PlaygroundEvent)
  | refused
  | call (c : EngineCall)
  | shown (pane : Pane) (document : String) (worked : Bool)
  | stored (key value : String)

/-- A diary with the state of the display and the store it stands in for. -/
structure Diary where
  now : Nat := 0
  /-- The entries with their times, latest first. -/
  entries : List (Nat × DiaryEntry) := []
  failingPanes : List Pane := []
  storeFails : Bool := false
  store : MemoryStore := {}

namespace Diary

def write (d : Diary) (entry : DiaryEntry) : Diary :=
  { d with entries := (d.now, entry) :: d.entries }

def put (d : Diary) (pane : Pane) (document : String) : Diary × Except IoError Unit :=
  let fails := d.failingPanes.contains pane
  (d.write (.shown pane document !fails),
    if fails then .error (.custom "display is gone") else .ok ())

def set (d : Diary) (key value : String) : Diary × Except StoreError Unit :=
  let d := d.write (.stored key value)
  if d.storeFails then (d, .error (.io "" (.custom "store is gone")))
  else ({ d with store := d.store.set key value }, .ok ())

/-- Takes notice of what happens; requests are told by what they lead to. -/
def note (d : Diary) (now : Nat) (h : Happening) : Diary :=
  let d := { d with now }
  match h with
  | .event e => d.write (.event e)
  | .refused => d.write .refused
  | .call c => d.write (.call c)
  | .request _ => d

def setting (rules : List ScriptRule) : Setting Diary where
  engine := .ofRules rules
  delays source :=
    let rule := ruleFor rules source
    ⟨rule.lexDelay, rule.parseDelay, rule.transpileDelay⟩
  outlet := ⟨put, set⟩
  note := note

end Diary
end LiveMarkup
