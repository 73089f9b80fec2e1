import RobotKit.Host.Disk

/-!
# A fresh host

At the start a host has the files that come with the tool, an empty cache, and an empty current
directory.
-/

namespace RobotKit.Host

open RobotKit.Files

def startDirectory : Location := ["work"]

def startFiles (s : Surroundings) (hasInstaller : Bool) : Node :=
  let resources := Resource.all.foldl
    (fun (tree : Node) (r : Resource) =>
      Node.put (.plain (.resource r)) ((s.resources.child r.path).spelled []) tree)
    (.dir [])
  let tree := if hasInstaller then Node.put (.plain (.text "")) (s.installer.spelled []) resources
    else resources
  Node.put (.dir []) startDirectory (Node.put (.dir []) (s.cache.spelled []) tree)

def State.fresh (s : Surroundings) (hasInstaller : Bool) : State :=
  { surroundings := s
    files := startFiles s hasInstaller
    directory := startDirectory
    downloaded := none
    output := ""
    complaints := ""
    started := [] }

end RobotKit.Host
