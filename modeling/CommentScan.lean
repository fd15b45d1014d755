import CommentScan.Proofs.Scanner.Repeats
import CommentScan.CommandLine.Folder
import CommentScan.Main
import CommentScan.Proofs.Scanner.Chunks
import CommentScan.Proofs.Scanner.Partition
import CommentScan.Session
import CommentScan.Proofs.Session.Resumption
import CommentScan.Proofs.Scanner.Nesting
import CommentScan.Proofs.Comment.Body
import CommentScan.Proofs.Comment.Walk
import CommentScan.Proofs.Comment.Tree
import CommentScan.Proofs.Session.Confinement
import CommentScan.Proofs.Session.Invariant
import CommentScan.Proofs.Scanner.Shape
import CommentScan.Proofs.Session.Trace
import CommentScan.Proofs.Automaton.Search
import CommentScan.Proofs.Lexeme.Extent
import CommentScan.Proofs.Lexeme.Enclosure
import CommentScan.Proofs.Lexeme.StringLiteral
import CommentScan.Proofs.Lexeme.CharLiteral
import CommentScan.Proofs.Scanner.Opening
import CommentScan.Proofs.Session.GivingBack
import CommentScan.Proofs.Scanner.Rereading
import CommentScan.Proofs.Session.Labels
import CommentScan.Proofs.Comment.Entry
import CommentScan.Proofs.Comment.Cut
import CommentScan.Proofs.Session.Rebinding
import CommentScan.Proofs.Session.Depth
import CommentScan.Proofs.Report.Statistics
import CommentScan.Proofs.Text.Quoted
import CommentScan.Proofs.Report.Listing
import CommentScan.Proofs.CommandLine.Arguments
import CommentScan.Proofs.CommandLine.Run
import CommentScan.Proofs.Registers.Nesting
