import RobotKit.Main
import RobotKit.Program.Run
import RobotKit.Proofs.AddingOrder
import RobotKit.Proofs.BuildAndUpload
import RobotKit.Proofs.Capture
import RobotKit.Proofs.Chunks
import RobotKit.Proofs.Dependencies
import RobotKit.Proofs.HeaderImports
import RobotKit.Proofs.ImportNamespace
import RobotKit.Proofs.LostBlocks
import RobotKit.Proofs.NewProject
import RobotKit.Proofs.PureRenaming
import RobotKit.Proofs.Relocation
import RobotKit.Proofs.RemoteRegistration
import RobotKit.Proofs.Waiting
import RobotKit.Proofs.WalkPlaces
