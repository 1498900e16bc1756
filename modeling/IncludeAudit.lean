import IncludeAudit.Main
import IncludeAudit.Offside.Library.Exchange
import IncludeAudit.Offside.Library.Ground
import IncludeAudit.Offside.Library.Reckoning
import IncludeAudit.Proofs.Cache.Completion
import IncludeAudit.Proofs.Cache.Freshness
import IncludeAudit.Proofs.Cache.History
import IncludeAudit.Proofs.Cache.Lookup
import IncludeAudit.Proofs.Cache.Status
import IncludeAudit.Proofs.Cache.Supply
import IncludeAudit.Proofs.Database.Commands
import IncludeAudit.Proofs.Flags.Arguments
import IncludeAudit.Proofs.Session.Location
import IncludeAudit.Proofs.Session.Verdict
import IncludeAudit.Proofs.Database.Blanks
import IncludeAudit.Proofs.Cache.Watchers
import IncludeAudit.Proofs.Cache.Numbers
import IncludeAudit.Proofs.Path.Normal
import IncludeAudit.Proofs.Settings.Files
import IncludeAudit.Proofs.Cli.Watching
import IncludeAudit.Proofs.Command.Parity
import IncludeAudit.Proofs.Flags.Commands
import IncludeAudit.Proofs.Json.Written
import IncludeAudit.Proofs.Settings.Layers
