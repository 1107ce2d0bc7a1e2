import DataWorkspace.Core.Privileges
import DataWorkspace.Core.SourceTables
import DataWorkspace.Superset.Login
import DataWorkspace.Superset.Permissions
import DataWorkspace.Proxy.Authentication
import DataWorkspace.Proxy.Forwarding
import DataWorkspace.Proxy.Paths
import DataWorkspace.Proxy.RoundTrip
import DataWorkspace.Proxy.ParallelFlows
import DataWorkspace.Core.TwoCalls
import DataWorkspace.Applications.HostRoundTrip
import DataWorkspace.Applications.Effects
import DataWorkspace.Applications.Lifecycle
import DataWorkspace.Applications.Ownership
import DataWorkspace.Async.Handover
import DataWorkspace.Applications.DatabaseUsers
import DataWorkspace.Applications.Orphans
import DataWorkspace.ReferenceData.Versions
import DataWorkspace.ReferenceData.Links
import DataWorkspace.ReferenceData.Mirror
import DataWorkspace.Py.Json
import DataWorkspace.Py.Removing
import DataWorkspace.Py.Mro
import DataWorkspace.Pipelines.Views
import DataWorkspace.Visualisations.Advertised
import DataWorkspace.Datasets.Access
import DataWorkspace.Datasets.VisualisationAccess
import DataWorkspace.Http.Method
import DataWorkspace.Datasets.Downloads
import DataWorkspace.Visualisations.ProjectNames
import DataWorkspace.Visualisations.ProjectTemplates
import DataWorkspace.Visualisations.ProjectRuns
import DataWorkspace.Async.Logged
import DataWorkspace.YourFiles.Forms
import DataWorkspace.YourFiles.Views
import DataWorkspace.YourFiles.Runs
import DataWorkspace.YourFiles.ColumnNames
import DataWorkspace.Py.CsvPrefix
import DataWorkspace.Py.Splitlines
import DataWorkspace.Visualisations.AccessRequests
import DataWorkspace.Visualisations.AccessRuns
import DataWorkspace.Notifications.Changelog
import DataWorkspace.Notifications.Creating
import DataWorkspace.Notifications.Sending
import DataWorkspace.Explorer.Results
import DataWorkspace.AuditLogs.Windows
import DataWorkspace.Datasets.Reviews
import DataWorkspace.Accounts.OneUser
import DataWorkspace.Accounts.Roles
import DataWorkspace.Accounts.Sync
import DataWorkspace.Proxy.MirrorUrls
import DataWorkspace.Datasets.LinkQueries
import DataWorkspace.Mirrors.Conda
import DataWorkspace.Mirrors.PypiRuns
import DataWorkspace.Mirrors.Crawl
import DataWorkspace.Requests.Tickets
import DataWorkspace.Datasets.CustomQueries
import DataWorkspace.Datasets.SourceLinks
import DataWorkspace.Explorer.Params
import DataWorkspace.Requests.Ownership
import DataWorkspace.Tools.Configured
import DataWorkspace.Sql.Composed
import DataWorkspace.Explorer.Exports
import DataWorkspace.Explorer.FinalSql
import DataWorkspace.Applications.OnTime
import DataWorkspace.Explorer.QueryTables
import DataWorkspace.Notifications.Isolation
import DataWorkspace.Core.Identifiers
import DataWorkspace.Proxy.Peers
import DataWorkspace.Datasets.Grid
import DataWorkspace.Tools.RoundTrip
import DataWorkspace.Api.Streaming
import DataWorkspace.ReferenceData.ExternalModel
import DataWorkspace.Applications.UnusedUsers
import DataWorkspace.Datasets.Related
import DataWorkspace.Finder.Elasticsearch
import DataWorkspace.Finder.Results
import DataWorkspace.Explorer.Playground
import DataWorkspace.Visualisations.DatasetPermissions
import DataWorkspace.Core.StreamingQuery
import DataWorkspace.ReferenceData.MetadataHash
import DataWorkspace.Datasets.Samples
import DataWorkspace.FileBrowser.Listing
import DataWorkspace.FileBrowser.Trash
import DataWorkspace.FileBrowser.Uploads
import DataWorkspace.FileBrowser.View
import DataWorkspace.ReferenceData.UploadRuns
import DataWorkspace.Datasets.Search
import DataWorkspace.Accounts.PermissionForms
import DataWorkspace.Datasets.MetadataTasks
import DataWorkspace.Proxy.WebSocketRuns
import DataWorkspace.Explorer.CachedCredentialRuns
import DataWorkspace.Applications.GrantLock
