import TypePolish.Command.Session
import TypePolish.FileTree.Edit
import TypePolish.FileTree.Listing
import TypePolish.Main
import TypePolish.Proofs.Command.Deciding
import TypePolish.Proofs.Command.Naming
import TypePolish.Proofs.Command.Status
import TypePolish.Proofs.Interface.Polished
import TypePolish.Proofs.Polish.Atomic
import TypePolish.Proofs.Polish.Blame
import TypePolish.Proofs.Polish.Bounded
import TypePolish.Proofs.Polish.Dates
import TypePolish.Proofs.Polish.Endings
import TypePolish.Proofs.Polish.Missing
import TypePolish.Proofs.Polish.Reordered
import TypePolish.Proofs.Polish.SecondRun
import TypePolish.Proofs.Polish.Skeleton
import TypePolish.Proofs.Rule.Chain
import TypePolish.Proofs.Rule.DateOrder
import TypePolish.Proofs.Rule.Leftmost
import TypePolish.Proofs.Rule.SecondPass
import TypePolish.Proofs.Rule.Spelling
import TypePolish.Proofs.Rule.WordOrder
