import Reactor.CommandLine
import Reactor.Main
import Reactor.Session
import Reactor.Proofs.Assembly.Slots
import Reactor.Proofs.Journal
import Reactor.Proofs.Selection
import Reactor.Proofs.Assembly.Discovery
import Reactor.Proofs.Assembly.Setting
import Reactor.Proofs.Assembly.Resolution
import Reactor.Proofs.Assembly.Precedence
import Reactor.Proofs.Crew.Site
import Reactor.Proofs.Crew.Closing
import Reactor.Proofs.Crew.Progress
import Reactor.Proofs.Crew.Delivery
import Reactor.Proofs.Crew.Holding
import Reactor.Proofs.Workshop
import Reactor.Proofs.Pool
import Reactor.Proofs.Engine.Start
import Reactor.Proofs.Engine.AllOrNothing
import Reactor.Proofs.Engine.Made
import Reactor.Proofs.Engine.Closing
import Reactor.Proofs.Engine.Submitting
import Reactor.Proofs.Engine.Shutdown
import Reactor.Proofs.Engine.Life
import Reactor.Proofs.Engine.Release
import Reactor.Proofs.Engine.Leaving
import Reactor.Proofs.Crew.Serving
import Reactor.Proofs.Crew.Stopping
import Reactor.Proofs.Engine.Joining
import Reactor.Proofs.Engine.Validated
import Reactor.Proofs.Thread.Units
import Reactor.Proofs.Thread.Visibility
import Reactor.Proofs.Crew.Shift
import Reactor.Proofs.Thread.Hearing
import Reactor.Proofs.Thread.Ledger
import Reactor.Proofs.Engine.Quitting
import Reactor.Proofs.Engine.Passes
import Reactor.Proofs.Engine.Creating
import Reactor.Proofs.Engine.Ending
import Reactor.Proofs.Engine.Hooks
import Reactor.Proofs.Options.Saving
import Reactor.Proofs.Engine.Configuration
import Reactor.Proofs.Campus.Order
import Reactor.Proofs.Campus.Joins
import Reactor.Proofs.Campus.Rest
import Reactor.Proofs.Campus.Orderly
import Reactor.Proofs.Campus.Closing
import Reactor.Proofs.Campus.Chores
import Reactor.Proofs.Assembly.Growth
import Reactor.Proofs.Families
import Reactor.Proofs.Assembly.Stability
import Reactor.Proofs.Thread.Covering
import Reactor.Proofs.Engine.Dues
import Reactor.Proofs.Engine.Notices
import Reactor.Proofs.Engine.Counting
import Reactor.Proofs.Probing
import Reactor.Proofs.Routing
import Reactor.Proofs.Crew.Serial
import Reactor.Proofs.Campus.Turns
import Reactor.Proofs.Campus.Rotation
import Reactor.Proofs.Engine.Further
import Reactor.Proofs.Engine.Capacity
import Reactor.Proofs.Files.Sharing
import Reactor.Proofs.Options.Layout
import Reactor.Proofs.CommandLine
import Reactor.Proofs.Files.Resolving
