import LiveMarkup.Store

/-! # The session

The session is what a restart brings back: the source text last applied and its format. Without a
stored source the sample document is used.
-/
namespace LiveMarkup

def sourceKey : String := "sommark-code"

def formatKey : String := "sommark-format"

def sampleSource : String :=
  "[Section]\n" ++
  "[Block] (SomMark Playground)->(h1) [end]\n" ++
  "\n" ++
  "[Block]\n" ++
  "Edit this document on the left. The preview refreshes once you stop typing.\n" ++
  "Switch the output format to compare \"html\", \"markdown\", \"mdx\" and \"text\".\n" ++
  "[end]\n" ++
  "\n" ++
  "# -------------------------------------------------------------------------- #\n" ++
  "#  Blocks, arguments and inline statements                                   #\n" ++
  "# -------------------------------------------------------------------------- #\n" ++
  "\n" ++
  "[Section]\n" ++
  "  [Block] (Blocks & Arguments)->(h2) [end]\n" ++
  "\n" ++
  "  [Block]\n" ++
  "  Blocks nest and take arguments. Inline statements style a snippet:\n" ++
  "  (bold text)->(bold), (italic text)->(italic) and (a link)->(link: https\\://example.com, Example).\n" ++
  "  [end]\n" ++
  "\n" ++
  "  [Image = src: https\\://example.com/logo.png, alt: Logo][end]\n" ++
  "  [hr][end]\n" ++
  "[end]\n" ++
  "\n" ++
  "# -------------------------------------------------------------------------- #\n" ++
  "#  At-blocks and escapes                                                     #\n" ++
  "# -------------------------------------------------------------------------- #\n" ++
  "\n" ++
  "[Section]\n" ++
  "  [Block] (At-Blocks & Escapes)->(h2) [end]\n" ++
  "\n" ++
  "  @_code_@: javascript;\n" ++
  "  const answer = 6 * 7;\n" ++
  "  console.log(`answer: $\x7banswer\x7d`);\n" ++
  "  @_end_@\n" ++
  "\n" ++
  "  @_table_@: ID, Name;\n" ++
  "  1, Lexer\n" ++
  "  2, Transpiler\n" ++
  "  @_end_@\n" ++
  "\n" ++
  "  [Block]\n" ++
  "  - Literal brackets: \\[ not a block \\]\n" ++
  "  - Literal arrow: \\-\\>\n" ++
  "  - Literal hash: \\#\n" ++
  "  [end]\n" ++
  "[end]\n" ++
  "[end]\n"

/-- A stored session: the source, and the format tag as it was stored. -/
structure Session where
  source : String
  format : Option String
deriving DecidableEq, Repr

namespace Session

def load (get? : String → Option String) : Session :=
  ⟨(get? sourceKey).getD sampleSource, get? formatKey⟩

/-- Saves a source, and then its format if that succeeded, by a way to set values. -/
def saveWith {σ ε : Type} (set : σ → String → String → σ × Except ε Unit) (s : σ)
    (source format : String) : σ × Except ε Unit :=
  match set s sourceKey source with
  | (s, .error e) => (s, .error e)
  | (s, .ok ()) => set s formatKey format

/-- Saves a source and its format in a file store. The writes fail as is said for their keys. -/
def save (s : FileStore) (t : FileTree) (source format : String) (fault : String → WriteFault) :
    FileStore.Outcome :=
  let set (at_ : FileStore × FileTree) (key value : String) :=
    let done := at_.1.set at_.2 key value (fault key)
    ((done.store, done.tree), done.result)
  let (at_, result) := saveWith set (s, t) source format
  ⟨at_.1, at_.2, result⟩

end Session
end LiveMarkup
