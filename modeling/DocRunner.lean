import DocRunner.Main
import DocRunner.Session
import DocRunner.Proofs.Clean.Survivors
import DocRunner.Proofs.Clean.Repeat
import DocRunner.Proofs.Run.Course
import DocRunner.Proofs.Run.WorkingDirectory
import DocRunner.Proofs.Run.Causes
import DocRunner.Proofs.Run.Visits
import DocRunner.Proofs.LinkCheck.Report
import DocRunner.Proofs.Run.Calls
import DocRunner.Proofs.Settings.Document
import DocRunner.Proofs.Settings.Layers
import DocRunner.Proofs.Program.Phases
import DocRunner.Proofs.Settings.Obstacles
import DocRunner.Proofs.CommandLine.Reading
import DocRunner.Proofs.Settings.EmptyDirectory
import DocRunner.Proofs.LinkReport.RoundTrip
import DocRunner.Proofs.Tree.Removal
import DocRunner.Proofs.LinkCheck.FreshReport
import DocRunner.Proofs.Tree.Physical
import DocRunner.Proofs.Tree.Write
import DocRunner.Proofs.LinkCheck.ReadBack
import DocRunner.Proofs.Tree.Alike
import DocRunner.Proofs.Run.FromScratch
import DocRunner.Proofs.Run.LogLevel
import DocRunner.Proofs.Program.LogLevel
import DocRunner.Proofs.Run.Composition
import DocRunner.Proofs.Run.Reports
import DocRunner.Proofs.Settings.RoundTrip
import DocRunner.Proofs.Tree.Below
import DocRunner.Proofs.Run.NoTrace
import DocRunner.Proofs.Run.Arguments
import DocRunner.Proofs.Settings.Schema
import DocRunner.Proofs.LinkReport.Isolation
import DocRunner.Proofs.Program.Directory
import DocRunner.Proofs.Settings.Port
import DocRunner.Proofs.Session.Directory
