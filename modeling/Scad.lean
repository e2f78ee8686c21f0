import Scad.FileTree
import Scad.Main
import Scad.Proofs.CallSites
import Scad.Proofs.Chains
import Scad.Proofs.Components
import Scad.Proofs.Dimples
import Scad.Proofs.Interruptions
import Scad.Proofs.JsonCalls
import Scad.Proofs.LinkGraph
import Scad.Proofs.Literals
import Scad.Proofs.Naming
import Scad.Proofs.Overrides
import Scad.Proofs.Parameters
import Scad.Proofs.Pieces
import Scad.Proofs.Placement
import Scad.Proofs.Positions
import Scad.Proofs.Previews
import Scad.Proofs.Relocation
import Scad.Proofs.SavedConfigs
