import LiveMarkup.Files.Tree
import LiveMarkup.Surface

/-! # Notices about files

A notice says that something happened to files in a watched directory. It concerns the watched file if
it may mean new content, and one of its paths is the file's or has the same file name. The file is then
read again; a text that is not news, and a file that cannot be read, are passed over.
-/
namespace LiveMarkup

inductive NoticeKind where
  | any | access | create | modify | remove | other
deriving DecidableEq, Repr

def NoticeKind.mayBringContent : NoticeKind → Bool
  | any | create | modify => true
  | access | remove | other => false

def concerns (kind : NoticeKind) (paths : List String) (target : String) : Bool :=
  kind.mayBringContent &&
    paths.any fun p => Path.same p target || Path.fileName? p = Path.fileName? target

structure SourceWatcher where
  path : String
  filter : ChangeFilter
deriving DecidableEq, Repr

/-- Takes a notice; gives the new text of the source, if there is one. -/
def SourceWatcher.take (w : SourceWatcher) (t : FileTree) (kind : NoticeKind)
    (paths : List String) : Option String × SourceWatcher :=
  if concerns kind paths w.path then
    match t.readText w.path with
    | .error _ => (none, w)
    | .ok text =>
      let (news, filter) := w.filter.accept text
      (if news then some text else none, { w with filter })
  else (none, w)

end LiveMarkup
