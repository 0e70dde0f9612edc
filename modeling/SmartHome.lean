import SmartHome.Lib.Run
import SmartHome.Lib.Eff
import SmartHome.Lib.PyValue
import SmartHome.Lib.Cut
import SmartHome.Lib.AsyncLock
import SmartHome.Lib.Decimal
import SmartHome.Lib.DateTime
import SmartHome.Exceptions
import SmartHome.Lib.Orm
import SmartHome.Lib.OrmDistinct
import SmartHome.Lib.OrmSync
import SmartHome.Lib.OrmSpared
import SmartHome.Lib.OrmTransaction
import SmartHome.Lib.OrmSolo
import SmartHome.Lib.Tables
import SmartHome.Lib.Sql
import SmartHome.Lib.Binary64
import SmartHome.Lib.Grid
import SmartHome.Lib.Aggregate
import SmartHome.Lib.Grouping
import SmartHome.Lib.Routing
import SmartHome.Users.Model
import SmartHome.Users.Service
import SmartHome.Auth.Rbac
import SmartHome.Auth.Jwt
import SmartHome.Api.Users
import SmartHome.Api.Pages
import SmartHome.Api.Access
import SmartHome.Api.Reorder
import SmartHome.Users.Account
import SmartHome.Users.Startup
import SmartHome.Api.Auth
import SmartHome.Auth.Sessions
import SmartHome.Auth.Authorisation
import SmartHome.Auth.Issuing
import SmartHome.Auth.Logout
import SmartHome.Lib.History
import SmartHome.Auth.Origins
import SmartHome.Providers.Base
import SmartHome.Providers.Fritz.Discovery
import SmartHome.Providers.Fritz.Provider
import SmartHome.Providers.Fritz.Connecting
import SmartHome.Providers.Mock
import SmartHome.Providers.Contract
import SmartHome.Scheduler.Tasks
import SmartHome.Scheduler.Passes
import SmartHome.Scheduler.Stamps
import SmartHome.Scheduler.Store
import SmartHome.Scheduler.Service
import SmartHome.Scheduler.Requests
import SmartHome.Scheduler.Failures
import SmartHome.Scheduler.Engine
import SmartHome.Scheduler.Restarts
import SmartHome.Scheduler.Overlap
import SmartHome.Cache
import SmartHome.Cache.SingleFlight
import SmartHome.Phone.Service
import SmartHome.Network.Service
import SmartHome.Network.FritzBox
import SmartHome.Network.Failures
import SmartHome.Network.Uptime
import SmartHome.Phone.Transparency
import SmartHome.Devices.Service
import SmartHome.Devices.Table
import SmartHome.Devices.Visibility
import SmartHome.Devices.Honesty
import SmartHome.Devices.SetPoints
import SmartHome.Devices.Polling
import SmartHome.Devices.Discovery
import SmartHome.Devices.Migrations
import SmartHome.Devices.Charts
import SmartHome.Devices.Sampling
import SmartHome.Devices.Updates
import SmartHome.Devices.LastSeen
import SmartHome.Devices.LiveAge
import SmartHome.Ui.Forms
import SmartHome.Ui.Actions
import SmartHome.Ui.Triggers
import SmartHome.Weather.Client
import SmartHome.Weather.Absent
import SmartHome.Weather.Service
import SmartHome.Weather.Callers
import SmartHome.Weather.Errors
import SmartHome.Weather.Freshness
import SmartHome.Groups.Service
import SmartHome.Groups.Membership
import SmartHome.Scheduler.Rules
import SmartHome.Audit.Service
import SmartHome.Audit.Query
import SmartHome.Audit.Operations
import SmartHome.Audit.Coverage
import SmartHome.Ui.Edit
import SmartHome.Scheduler.Windows
import SmartHome.Scheduler.Conditions
import SmartHome.Scheduler.Comparisons
import SmartHome.Devices.SetPointCodec
import SmartHome.Ui.Stepper
import SmartHome.Providers.Readings
import SmartHome.Providers.Typing
import SmartHome.Api.Analytics
import SmartHome.Api.Settings
import SmartHome.Api.Power
import SmartHome.Api.Temperature
import SmartHome.Api.Consumers
import SmartHome.Lib.Outcome
import SmartHome.Lib.Keyed
import SmartHome.Groups.Integrity
import SmartHome.House.Tables
import SmartHome.House.Integrity
import SmartHome.House.Authority
import SmartHome.House.Accounts
import SmartHome.House.Trail
import SmartHome.Lib.Watched
import SmartHome.House.Recording
import SmartHome.House.Authors
import SmartHome.Ui.AuthFetch
import SmartHome.Ui.SignedIn
import SmartHome.Lib.Paging
import SmartHome.Ui.AuditPage
import SmartHome.Ui.Renewal
import SmartHome.Lib.Ddl
import SmartHome.Lib.Revisions
import SmartHome.Migrations.Scripts
import SmartHome.Migrations.Models
import SmartHome.Migrations.Runs
import SmartHome.Migrations.Repair
import SmartHome.Ui.DeviceGrid
import SmartHome.Lib.Percent
import SmartHome.Ui.LoginPage
