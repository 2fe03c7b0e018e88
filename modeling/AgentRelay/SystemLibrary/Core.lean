import AgentRelay.SystemLibrary.Table

set_option autoImplicit false

/-!
# The tables of the system library, of the linker and of the system's services

Every process holds these libraries.
-/

namespace AgentRelay.SystemLibrary

/-- The system library. -/
def library : LibraryTable where
  name := "libc.so.6"
  needs := ["ld-linux-x86-64.so.2"]
  versions := [
    "GLIBC_2.2.5", "GLIBC_2.2.6", "GLIBC_2.3", "GLIBC_2.3.2", "GLIBC_2.3.3", "GLIBC_2.3.4", "GLIBC_2.4",
    "GLIBC_2.5", "GLIBC_2.6", "GLIBC_2.7", "GLIBC_2.8", "GLIBC_2.9", "GLIBC_2.10", "GLIBC_2.11", "GLIBC_2.12",
    "GLIBC_2.13", "GLIBC_2.14", "GLIBC_2.15", "GLIBC_2.16", "GLIBC_2.17", "GLIBC_2.18", "GLIBC_2.22",
    "GLIBC_2.23", "GLIBC_2.24", "GLIBC_2.25", "GLIBC_2.26", "GLIBC_2.27", "GLIBC_2.28", "GLIBC_2.29",
    "GLIBC_2.30", "GLIBC_2.31", "GLIBC_2.32", "GLIBC_2.33", "GLIBC_2.34", "GLIBC_2.35", "GLIBC_2.36",
    "GLIBC_2.38", "GLIBC_2.39", "GLIBC_ABI_DT_RELR", "GLIBC_PRIVATE"]
  places := [
    "_Exit=_exit _Fork@@35 _IO_2_1_stderr_ _IO_2_1_stdin_ _IO_2_1_stdout_ _IO_adjust_column _IO_adjust_wcolumn",
    "_IO_default_doallocate _IO_default_finish _IO_default_pbackfail _IO_default_uflow _IO_default_xsgetn",
    "_IO_default_xsputn _IO_do_write _IO_doallocbuf _IO_enable_locks@@41 _IO_fclose=fclose _IO_fdopen=fdopen",
    "_IO_feof=feof _IO_ferror=ferror _IO_fflush=fflush _IO_fgetpos=_IO_fgetpos64=fgetpos=fgetpos64",
    "_IO_fgets=fgets _IO_file_attach _IO_file_close _IO_file_close_it _IO_file_doallocate _IO_file_finish",
    "_IO_file_fopen _IO_file_init _IO_file_jumps _IO_file_open _IO_file_overflow _IO_file_read _IO_file_seek",
    "_IO_file_seekoff _IO_file_setbuf _IO_file_stat _IO_file_sync _IO_file_underflow _IO_file_write",
    "_IO_file_xsputn _IO_flockfile=flockfile _IO_flush_all _IO_flush_all_linebuffered=_flushlbf",
    "_IO_fopen=fopen=fopen64 _IO_fprintf=fprintf _IO_fputs=fputs _IO_fread=fread _IO_free_backup_area",
    "_IO_free_wbackup_area _IO_fsetpos=_IO_fsetpos64=fsetpos=fsetpos64 _IO_ftell=ftell",
    "_IO_ftrylockfile=ftrylockfile _IO_funlockfile=funlockfile _IO_fwrite=fwrite _IO_getc=fgetc=getc _IO_getline",
    "_IO_getline_info _IO_gets=gets _IO_init _IO_init_marker _IO_init_wmarker _IO_iter_begin _IO_iter_end",
    "_IO_iter_file _IO_iter_next _IO_least_wmarker _IO_link_in _IO_list_all _IO_list_lock _IO_list_resetlock",
    "_IO_list_unlock _IO_marker_delta _IO_marker_difference _IO_padn _IO_peekc_locked _IO_popen=popen",
    "_IO_printf=printf _IO_proc_close _IO_proc_open _IO_putc=putc _IO_puts=puts _IO_remove_marker _IO_seekmark",
    "_IO_seekoff _IO_seekpos _IO_seekwmark _IO_setb _IO_setbuffer=setbuffer _IO_setvbuf=setvbuf _IO_sgetn",
    "_IO_sprintf=sprintf _IO_sputbackc _IO_sputbackwc _IO_sscanf=sscanf _IO_str_init_readonly _IO_str_init_static",
    "_IO_str_overflow _IO_str_pbackfail _IO_str_seekoff _IO_str_underflow _IO_sungetc _IO_sungetwc",
    "_IO_switch_to_get_mode _IO_switch_to_main_wget_area _IO_switch_to_wbackup_area _IO_switch_to_wget_mode",
    "_IO_un_link _IO_ungetc=ungetc _IO_unsave_markers _IO_unsave_wmarkers _IO_vfprintf=vfprintf _IO_vfscanf@2",
    "_IO_vsprintf=vsprintf _IO_wdefault_doallocate _IO_wdefault_finish _IO_wdefault_pbackfail _IO_wdefault_uflow",
    "_IO_wdefault_xsgetn _IO_wdefault_xsputn _IO_wdo_write _IO_wdoallocbuf _IO_wfile_jumps _IO_wfile_overflow",
    "_IO_wfile_seekoff _IO_wfile_sync _IO_wfile_underflow _IO_wfile_xsputn _IO_wmarker_delta _IO_wsetb",
    "__abort_msg@@41 __adjtimex=adjtimex=ntp_adjtime __after_morecore_hook@2 __arch_prctl=arch_prctl",
    "__argz_count=argz_count __argz_next=argz_next __argz_stringify=argz_stringify __asprintf=asprintf",
    "__asprintf_chk@@12 __assert __assert_fail __assert_perror_fail __backtrace=backtrace",
    "__backtrace_symbols=backtrace_symbols __backtrace_symbols_fd=backtrace_symbols_fd __bsd_getpgrp",
    "__bzero=bzero __call_tls_dtors@@41 __check_rhosts_file __chk_fail@@7",
    "__clock_gettime@@41=clock_gettime@@21=clock_gettime@2 __clone=clone __close=close __close_nocancel@@41",
    "__cmsg_nxthdr __confstr_chk@@8 __connect=connect __copy_grp@@41 __ctype32_b@2 __ctype32_tolower@2",
    "__ctype32_toupper@2 __ctype_b@2 __ctype_b_loc@@4 __ctype_get_mb_cur_max __ctype_init@@41 __ctype_tolower@2",
    "__ctype_tolower_loc@@4 __ctype_toupper@2 __ctype_toupper_loc@@4 __curbrk __cxa_at_quick_exit@@14",
    "__cxa_atexit __cxa_finalize __cxa_thread_atexit_impl@@22 __cyg_profile_func_enter=__cyg_profile_func_exit",
    "__daylight=daylight __dcgettext=dcgettext __default_morecore@2 __dgettext=dgettext __dprintf_chk@@12",
    "__dup2=dup2 __duplocale=duplocale@@4 __endmntent=endmntent __environ=_environ=environ __errno_location",
    "__explicit_bzero_chk@@26 __fbufsize __fcntl=__libc_fcntl64@@41=fcntl=fcntl64@@29",
    "__fdelt_chk@@19=__fdelt_warn@@19 __fentry__@@17 __ffs=ffs __fgets_chk@@8 __fgets_unlocked_chk@@8",
    "__fgetws_chk@@8 __fgetws_unlocked_chk@@8 __file_change_detection_for_fp@@41",
    "__file_change_detection_for_path@@41 __file_change_detection_for_stat@@41 __file_is_unchanged@@41",
    "__finite=finite __finitef=finitef __finitel=finitel __flbf __fork=__libc_fork@@41=fork __fortify_fail@@41",
    "__fpending __fprintf_chk@@7 __fpu_control __fpurge __fread_chk@@11 __fread_unlocked_chk@@11 __freadable",
    "__freading __free_hook@2 __freelocale=freelocale@@4 __fseeko64@@41=fseeko=fseeko64 __fsetlocking",
    "__fstat64@@41=fstat@@34=fstat64@@34 __ftello64@@41=ftello=ftello64 __fwprintf_chk@@8 __fwritable __fwriting",
    "__fxstat=__fxstat64 __fxstatat@@8=__fxstatat64@@8 __gconv_create_spec@@41 __gconv_destroy_spec@@41",
    "__gconv_get_alias_db@@41 __gconv_get_cache@@41 __gconv_get_modules_db@@41 __gconv_open@@41",
    "__gconv_transliterate@@41 __getauxval@@20=getauxval@@20 __getcwd_chk@@8 __getdelim=getdelim",
    "__getdomainname_chk@@8 __getgroups_chk@@8 __gethostname_chk@@8 __getlogin_r_chk@@8 __getmntent_r=getmntent_r",
    "__getpagesize=getpagesize __getpgid=getpgid __getpid=getpid __getrlimit@@41=getrlimit=getrlimit64",
    "__gets_chk@@7 __gettimeofday=gettimeofday __getwd_chk@@8 __gmtime_r=gmtime_r __h_errno@@41",
    "__h_errno_location __idna_from_dns_encoding@@41 __idna_to_dns_encoding@@41 __inet6_scopeid_pton@@41",
    "__inet_aton_exact@@41 __inet_pton_length@@41 __internal_endnetgrent@@41 __internal_getnetgrent_r@@41",
    "__internal_setnetgrent@@41 __isalnum_l=isalnum_l@@4 __isalpha_l=isalpha_l@@4 __isascii_l=isascii",
    "__isblank_l=isblank_l@@4 __iscntrl_l=iscntrl_l@@4 __isctype@@4=isctype@@4 __isdigit_l=isdigit_l@@4",
    "__isgraph_l=isgraph_l@@4 __isinf=isinf __isinff=isinff __isinfl=isinfl __islower_l=islower_l@@4",
    "__isnan=isnan __isnanf128@@35=__isnanf128@27 __isnanf=isnanf __isnanl=isnanl __isoc23_fscanf@@38",
    "__isoc23_fwscanf@@38 __isoc23_scanf@@38 __isoc23_sscanf@@38",
    "__isoc23_strtoimax@@38=__isoc23_strtol@@38=__isoc23_strtoll@@38 __isoc23_strtol_l@@38=__isoc23_strtoll_l@@38",
    "__isoc23_strtoul@@38=__isoc23_strtoull@@38=__isoc23_strtoumax@@38",
    "__isoc23_strtoul_l@@38=__isoc23_strtoull_l@@38 __isoc23_swscanf@@38 __isoc23_vfscanf@@38",
    "__isoc23_vfwscanf@@38 __isoc23_vscanf@@38 __isoc23_vsscanf@@38 __isoc23_vswscanf@@38 __isoc23_vwscanf@@38",
    "__isoc23_wcstoimax@@38=__isoc23_wcstol@@38=__isoc23_wcstoll@@38 __isoc23_wcstol_l@@38=__isoc23_wcstoll_l@@38",
    "__isoc23_wcstoul@@38=__isoc23_wcstoull@@38=__isoc23_wcstoumax@@38",
    "__isoc23_wcstoul_l@@38=__isoc23_wcstoull_l@@38 __isoc23_wscanf@@38 __isoc99_fscanf@@11 __isoc99_fwscanf@@11",
    "__isoc99_scanf@@11 __isoc99_sscanf@@11 __isoc99_swscanf@@11 __isoc99_vfscanf@@11 __isoc99_vfwscanf@@11",
    "__isoc99_vscanf@@11 __isoc99_vsscanf@@11 __isoc99_vswscanf@@11 __isoc99_vwscanf@@11 __isoc99_wscanf@@11",
    "__isprint_l=isprint_l@@4 __ispunct_l=ispunct_l@@4 __isspace_l=isspace_l@@4 __isupper_l=isupper_l@@4",
    "__iswalnum_l=iswalnum_l@@4 __iswalpha_l=iswalpha_l@@4 __iswblank_l=iswblank_l@@4 __iswcntrl_l=iswcntrl_l@@4",
    "__iswctype=iswctype __iswctype_l=iswctype_l@@4 __iswdigit_l=iswdigit_l@@4 __iswgraph_l=iswgraph_l@@4",
    "__iswlower_l=iswlower_l@@4 __iswprint_l=iswprint_l@@4 __iswpunct_l=iswpunct_l@@4 __iswspace_l=iswspace_l@@4",
    "__iswupper_l=iswupper_l@@4 __iswxdigit_l=iswxdigit_l@@4 __isxdigit_l=isxdigit_l@@4 __ivaliduser@2",
    "__key_decryptsession_pk_LOCAL@2 __key_encryptsession_pk_LOCAL@2 __key_gendes_LOCAL@2",
    "__libc_alloc_buffer_alloc_array@@41 __libc_alloc_buffer_allocate@@41 __libc_alloc_buffer_copy_bytes@@41",
    "__libc_alloc_buffer_copy_string@@41 __libc_alloc_buffer_create_failure@@41 __libc_alloca_cutoff@@41",
    "__libc_allocate_once_slow@@41 __libc_allocate_rtsig __libc_calloc=calloc __libc_clntudp_bufcreate@41",
    "__libc_current_sigrtmax __libc_current_sigrtmin __libc_dlerror_result@@41",
    "__libc_dn_expand@@41=dn_expand@@35=__dn_expand@2 __libc_dn_skipname@@41=dn_skipname@@35=__dn_skipname@2",
    "__libc_dynarray_at_failure@@41 __libc_dynarray_emplace_enlarge@@41 __libc_dynarray_finalize@@41",
    "__libc_dynarray_resize@@41 __libc_dynarray_resize_clear@@41 __libc_early_init@@41 __libc_fatal@@41",
    "__libc_free=free=cfree@2 __libc_freeres __libc_ifunc_impl_list@@41 __libc_init_first",
    "__libc_mallinfo=mallinfo __libc_malloc=malloc __libc_mallopt=mallopt __libc_memalign=memalign",
    "__libc_msgrcv@@41=msgrcv __libc_msgsnd@@41=msgsnd __libc_ns_makecanon@@41 __libc_ns_samename@@41",
    "__libc_pread@@41=__pread64=pread=pread64 __libc_pvalloc=pvalloc __libc_pwrite@@41=__pwrite64=pwrite=pwrite64",
    "__libc_realloc=realloc __libc_reallocarray@@41=reallocarray@@27",
    "__libc_res_dnok@@41=res_dnok@@35=__res_dnok@2 __libc_res_hnok@@41=res_hnok@@35=__res_hnok@2",
    "__libc_res_nameinquery@@41 __libc_res_queriesmatch@@41 __libc_rpc_getport@41 __libc_sa_len",
    "__libc_scratch_buffer_grow@@41 __libc_scratch_buffer_grow_preserve@@41",
    "__libc_scratch_buffer_set_array_size@@41 __libc_secure_getenv@@41=secure_getenv@@21=__secure_getenv@2",
    "__libc_sigaction@@41 __libc_single_threaded@@33 __libc_start_main@@35=__libc_start_main@2",
    "__libc_system@@41=system __libc_unwind_link_get@@41 __libc_valloc=valloc __lll_lock_wait_private@@41",
    "__lll_lock_wake_private@@41 __longjmp_chk@@15 __lseek=lseek=lseek64=llseek@2 __lxstat=__lxstat64",
    "__madvise@@41=madvise __malloc_hook@2 __malloc_initialize_hook@2 __mbrlen=mbrlen __mbrtowc=mbrtowc",
    "__mbsnrtowcs_chk@@8 __mbsrtowcs_chk@@8 __mbstowcs_chk@@8 __memalign_hook@2 __memcmpeq@@36",
    "__memcpy_chk@@7=__memmove_chk@@7 __mempcpy=mempcpy __mempcpy_chk@@7 __mempcpy_small@2 __memset_chk@@7",
    "__merge_grp@@41 __mktemp@@41=mktemp __mmap@@41=mmap=mmap64 __monstartup=monstartup __morecore@2",
    "__mprotect@@41=mprotect __mq_open_2@@35=__mq_open_2@11 __munmap@@41=munmap __nanosleep@@3=nanosleep",
    "__netlink_assert_response@@41 __newlocale=newlocale@@4 __nl_langinfo_l=nl_langinfo_l@@4",
    "__nptl_create_event@@41 __nptl_death_event@@41 __nptl_last_event@@41 __nptl_nthreads@@41",
    "__nptl_rtld_global@@41 __nptl_threads_events@@41 __nptl_version@@41",
    "__ns_name_compress@@41=ns_name_compress@@35=ns_name_compress@13",
    "__ns_name_ntop@@41=ns_name_ntop@@35=ns_name_ntop@13 __ns_name_pack@@41=ns_name_pack@@35=ns_name_pack@13",
    "__ns_name_pton@@41=ns_name_pton@@35=ns_name_pton@13 __ns_name_skip@@41=ns_name_skip@@35=ns_name_skip@13",
    "__ns_name_uncompress@@41=ns_name_uncompress@@35=ns_name_uncompress@13",
    "__ns_name_unpack@@41=ns_name_unpack@@35=ns_name_unpack@13 __nss_configure_lookup __nss_database_get@@41",
    "__nss_database_lookup@2 __nss_disable_nscd@@41 __nss_files_data_endent@@41 __nss_files_data_open@@41",
    "__nss_files_data_put@@41 __nss_files_data_setent@@41 __nss_files_fopen@@41 __nss_group_lookup2@@41",
    "__nss_group_lookup@2=__nss_hosts_lookup@2=__nss_passwd_lookup@2 __nss_hash@@41 __nss_hostname_digits_dots",
    "__nss_hosts_lookup2@@41 __nss_lookup@@41 __nss_lookup_function@@41 __nss_next2@@41 __nss_next@2",
    "__nss_parse_line_result@@41 __nss_passwd_lookup2@@41 __nss_readline@@41 __nss_services_lookup2@@41",
    "__obstack_printf_chk@@12 __obstack_vprintf_chk@@12 __open64_2@@11 __open64_nocancel@@41=__open_nocancel@@41",
    "__open=__open64=open=open64 __open_2@@11 __open_catalog@@41 __openat64_2@@11 __openat_2@@11 __overflow",
    "__pipe=pipe __poll=poll __poll_chk@@20 __posix_getopt@@14 __ppoll_chk@@20 __pread64_chk@@8",
    "__pread64_nocancel@@41 __pread_chk@@8 __printf_chk@@7 __printf_fp __profile_frequency",
    "__progname=program_invocation_short_name __progname_full=program_invocation_name",
    "__pthread_cleanup_routine@@35=__pthread_cleanup_routine@6 __pthread_get_minstack@@41",
    "__pthread_key_create@@35=pthread_key_create@@35=__pthread_key_create@2=pthread_key_create@2",
    "__pthread_keys@@41 __pthread_register_cancel@@35=__pthread_register_cancel@6",
    "__pthread_register_cancel_defer@@35=__pthread_register_cancel_defer@6",
    "__pthread_unregister_cancel@@35=__pthread_unregister_cancel@6",
    "__pthread_unregister_cancel_restore@@35=__pthread_unregister_cancel_restore@6",
    "__pthread_unwind_next@@35=__pthread_unwind_next@6 __ptsname_r_chk@@8 __rawmemchr=rawmemchr __rcmd_errstr",
    "__read=read __read_chk@@8 __read_nocancel@@41 __readlink_chk@@8 __readlinkat_chk@@9 __realloc_hook@2",
    "__realpath_chk@@8 __recv@@41=recv __recv_chk@@8 __recvfrom_chk@@8 __register_atfork@@5",
    "__res_context_hostalias@@41 __res_context_mkquery@@41 __res_context_query@@41 __res_context_search@@41",
    "__res_context_send@@41 __res_get_nsaddr@@41 __res_iclose@@41 __res_init __res_nclose __res_ninit",
    "__res_nopt@@41 __res_randomid __res_state __resolv_context_get@@41 __resolv_context_get_override@@41",
    "__resolv_context_get_preinit@@41 __resolv_context_put@@41 __resp@@41 __rpc_thread_createerr@2",
    "__rpc_thread_svc_fdset@2 __rpc_thread_svc_max_pollfd@2 __rpc_thread_svc_pollfd@2 __sbrk=sbrk",
    "__sched_cpualloc@@11 __sched_cpucount@@10 __sched_cpufree@@11",
    "__sched_get_priority_max=sched_get_priority_max __sched_get_priority_min=sched_get_priority_min",
    "__sched_getparam=sched_getparam __sched_getscheduler=sched_getscheduler",
    "__sched_setscheduler=sched_setscheduler __sched_yield=sched_yield __select=select __send=send",
    "__sendmmsg@@41=sendmmsg@@18 __setmntent=setmntent __setpgid=setpgid __shm_get_name@@41 __sigaction=sigaction",
    "__sigaddset@2 __sigdelset@2 __sigismember@2 __signbit __signbitf __signbitl __sigpause __sigsetjmp",
    "__sigsuspend=sigsuspend __sigtimedwait@@41=sigtimedwait __snprintf_chk@@7 __socket@@41=socket",
    "__sprintf_chk@@7 __stack_chk_fail@@8 __statfs=statfs=statfs64 __stpcpy=stpcpy __stpcpy_chk@@7",
    "__stpcpy_small@2 __stpncpy=stpncpy __stpncpy_chk@@8 __strcasecmp=strcasecmp __strcasecmp_l=strcasecmp_l@@4",
    "__strcasestr=strcasestr __strcat_chk@@7 __strcoll_l=strcoll_l@@4 __strcpy_chk@@7 __strcpy_small@2",
    "__strcspn_c1@2 __strcspn_c2@2 __strcspn_c3@2 __strdup=strdup __strerror_r=strerror_r",
    "__strfmon_l=strfmon_l@@4 __strftime_l@@4=strftime_l@@4 __strlcat_chk@@38 __strlcpy_chk@@38",
    "__strncasecmp_l=strncasecmp_l@@4 __strncat_chk@@7 __strncpy_chk@@7 __strndup=strndup __strpbrk_c2@2",
    "__strpbrk_c3@2 __strsep_1c@2 __strsep_2c@2 __strsep_3c@2 __strsep_g=strsep __strspn_c1@2 __strspn_c2@2",
    "__strspn_c3@2 __strtod_internal __strtod_l=strtod_l@@4=strtof32x_l@@28=strtof64_l@@28 __strtod_nan@@41",
    "__strtof128_internal@@27 __strtof128_nan@@41 __strtof_internal __strtof_l=strtof32_l@@28=strtof_l@@4",
    "__strtof_nan@@41 __strtok_r=strtok_r __strtok_r_1c@2 __strtol_internal=__strtoll_internal",
    "__strtol_l=__strtoll_l=strtol_l@@4=strtoll_l@@6 __strtold_internal __strtold_l=strtof64x_l@@28=strtold_l@@4",
    "__strtold_nan@@41 __strtoul_internal=__strtoull_internal __strtoul_l=__strtoull_l=strtoul_l@@4=strtoull_l@@6",
    "__strverscmp=strverscmp __strxfrm_l=strxfrm_l@@4 __swprintf_chk@@8 __sysconf=sysconf __sysctl@2=sysctl@2",
    "__syslog_chk@@8 __sysv_signal=sysv_signal __tdelete@@41=tdelete __tfind@@41=tfind __timezone=timezone",
    "__toascii_l=toascii __tolower_l=tolower_l@@4 __toupper_l=toupper_l@@4 __towctrans=towctrans",
    "__towctrans_l=towctrans_l@@4 __towlower_l=towlower_l@@4 __towupper_l=towupper_l@@4 __tsearch@@41=tsearch",
    "__ttyname_r_chk@@8 __twalk@@41=twalk __twalk_r@@41=twalk_r@@31 __tzname=tzname __uflow __underflow",
    "__uselocale@@4=uselocale@@4 __vasprintf_chk@@12 __vdprintf_chk@@12 __vfork=vfork __vfprintf_chk@@7",
    "__vfscanf=vfscanf __vfwprintf_chk@@8 __vprintf_chk@@7 __vsnprintf=vsnprintf __vsnprintf_chk@@7",
    "__vsprintf_chk@@7 __vsscanf=vsscanf __vswprintf_chk@@8 __vsyslog_chk@@8 __vwprintf_chk@@8 __wait=wait",
    "__waitpid=waitpid __wcpcpy_chk@@8 __wcpncpy_chk@@8 __wcrtomb_chk@@8 __wcscasecmp_l=wcscasecmp_l@@4",
    "__wcscat_chk@@8 __wcscoll_l=wcscoll_l@@4 __wcscpy_chk@@8 __wcsftime_l@@4=wcsftime_l@@4 __wcslcat_chk@@38",
    "__wcslcpy_chk@@38 __wcsncasecmp_l=wcsncasecmp_l@@4 __wcsncat_chk@@8 __wcsncpy_chk@@8 __wcsnrtombs_chk@@8",
    "__wcsrtombs_chk@@8 __wcstod_internal __wcstod_l=wcstod_l@@4=wcstof32x_l@@28=wcstof64_l@@28",
    "__wcstof128_internal@@27 __wcstof_internal __wcstof_l=wcstof32_l@@28=wcstof_l@@4",
    "__wcstol_internal=__wcstoll_internal __wcstol_l=__wcstoll_l=wcstol_l@@4=wcstoll_l@@4 __wcstold_internal",
    "__wcstold_l=wcstof64x_l@@28=wcstold_l@@4 __wcstombs_chk@@8 __wcstoul_internal=__wcstoull_internal",
    "__wcstoul_l=__wcstoull_l=wcstoul_l@@4=wcstoull_l@@4 __wcsxfrm_l=wcsxfrm_l@@4 __wctomb_chk@@8",
    "__wctrans_l=wctrans_l@@4 __wctype_l=wctype_l@@4 __wmemcpy_chk@@8 __wmemmove_chk@@8 __wmempcpy_chk@@8",
    "__wmemset_chk@@8 __woverflow __wprintf_chk@@8 __write=write __write_nocancel@@41 __wuflow __wunderflow",
    "__x86_get_cpuid_feature_leaf@@34 __xmknod __xmknodat@@8 __xpg_basename __xpg_sigpause __xpg_strerror_r@@7",
    "__xstat=__xstat64 _authenticate@2 _dl_find_object@@36 _dl_mcount_wrapper _dl_mcount_wrapper_check",
    "_itoa_lower_digits@@41 _libc_intl_domainname _longjmp=longjmp=siglongjmp _mcleanup _mcount=mcount",
    "_nl_default_dirname _nl_domain_bindings _nl_msg_cat_cntr _nss_dns_getcanonname_r@@41",
    "_nss_dns_gethostbyaddr2_r@@41 _nss_dns_gethostbyaddr_r@@41 _nss_dns_gethostbyname2_r@@41",
    "_nss_dns_gethostbyname3_r@@41 _nss_dns_gethostbyname4_r@@41 _nss_dns_gethostbyname_r@@41",
    "_nss_dns_getnetbyaddr_r@@41 _nss_dns_getnetbyname_r@@41 _nss_files_endaliasent@@41",
    "_nss_files_endetherent@@41 _nss_files_endgrent@@41 _nss_files_endhostent@@41 _nss_files_endnetent@@41",
    "_nss_files_endnetgrent@@41 _nss_files_endprotoent@@41 _nss_files_endpwent@@41 _nss_files_endrpcent@@41",
    "_nss_files_endservent@@41 _nss_files_endsgent@@41 _nss_files_endspent@@41 _nss_files_getaliasbyname_r@@41",
    "_nss_files_getaliasent_r@@41 _nss_files_getetherent_r@@41 _nss_files_getgrent_r@@41",
    "_nss_files_getgrgid_r@@41 _nss_files_getgrnam_r@@41 _nss_files_gethostbyaddr_r@@41",
    "_nss_files_gethostbyname2_r@@41 _nss_files_gethostbyname3_r@@41 _nss_files_gethostbyname4_r@@41",
    "_nss_files_gethostbyname_r@@41 _nss_files_gethostent_r@@41 _nss_files_gethostton_r@@41",
    "_nss_files_getnetbyaddr_r@@41 _nss_files_getnetbyname_r@@41 _nss_files_getnetent_r@@41",
    "_nss_files_getnetgrent_r@@41 _nss_files_getntohost_r@@41 _nss_files_getprotobyname_r@@41",
    "_nss_files_getprotobynumber_r@@41 _nss_files_getprotoent_r@@41 _nss_files_getpwent_r@@41",
    "_nss_files_getpwnam_r@@41 _nss_files_getpwuid_r@@41 _nss_files_getrpcbyname_r@@41",
    "_nss_files_getrpcbynumber_r@@41 _nss_files_getrpcent_r@@41 _nss_files_getservbyname_r@@41",
    "_nss_files_getservbyport_r@@41 _nss_files_getservent_r@@41 _nss_files_getsgent_r@@41",
    "_nss_files_getsgnam_r@@41 _nss_files_getspent_r@@41 _nss_files_getspnam_r@@41 _nss_files_init@@41",
    "_nss_files_initgroups_dyn@@41 _nss_files_parse_etherent@@41 _nss_files_parse_grent@@41",
    "_nss_files_parse_netent@@41 _nss_files_parse_protoent@@41 _nss_files_parse_pwent@@41",
    "_nss_files_parse_rpcent@@41 _nss_files_parse_servent@@41 _nss_files_parse_sgent@@41",
    "_nss_files_parse_spent@@41 _nss_files_setaliasent@@41 _nss_files_setetherent@@41 _nss_files_setgrent@@41",
    "_nss_files_sethostent@@41 _nss_files_setnetent@@41 _nss_files_setnetgrent@@41 _nss_files_setprotoent@@41",
    "_nss_files_setpwent@@41 _nss_files_setrpcent@@41 _nss_files_setservent@@41 _nss_files_setsgent@@41",
    "_nss_files_setspent@@41 _nss_netgroup_parseline@@41 _null_auth@2 _obstack@2 _obstack_allocated_p",
    "_obstack_begin _obstack_begin_1 _obstack_free=obstack_free _obstack_memory_used _obstack_newchunk",
    "_pthread_cleanup_pop@@35=_pthread_cleanup_pop@2 _pthread_cleanup_pop_restore@2",
    "_pthread_cleanup_push@@35=_pthread_cleanup_push@2 _pthread_cleanup_push_defer@2 _res@2 _res_hconf",
    "_rpc_dtablesize@2 _seterr_reply@2 _setjmp",
    "_sys_errlist@2=_sys_errlist@4=_sys_errlist@8=_sys_errlist@16=sys_errlist@2=sys_errlist@4=sys_errlist@8=sys_errlist@16",
    "_sys_nerr@16=sys_nerr@16 _sys_nerr@2=sys_nerr@2 _sys_nerr@4=sys_nerr@4 _sys_nerr@8=sys_nerr@8",
    "_sys_siglist@2=_sys_siglist@6=sys_siglist@2=sys_siglist@6",
    "_thread_db___nptl_last_event@@41=_thread_db___nptl_rtld_global@@41=_thread_db_dtv_slotinfo_gen@@41=_thread_db_dtv_slotinfo_list_len@@41=_thread_db_dtv_t_counter@@41=_thread_db_dtv_t_pointer_val@@41=_thread_db_list_t_next@@41=_thread_db_pthread_key_data_seq@@41=_thread_db_pthread_key_struct_seq@@41",
    "_thread_db___nptl_nthreads@@41 _thread_db___pthread_keys@@41 _thread_db_const_thread_area@@41",
    "_thread_db_dtv_dtv@@41",
    "_thread_db_dtv_slotinfo_list_next@@41=_thread_db_dtv_slotinfo_map@@41=_thread_db_list_t_prev@@41=_thread_db_pthread_dtvp@@41=_thread_db_pthread_key_data_data@@41=_thread_db_pthread_key_struct_destr@@41",
    "_thread_db_dtv_slotinfo_list_slotinfo@@41 _thread_db_link_map_l_tls_modid@@41",
    "_thread_db_link_map_l_tls_offset@@41 _thread_db_pthread_cancelhandling@@41 _thread_db_pthread_eventbuf@@41",
    "_thread_db_pthread_eventbuf_eventmask@@41 _thread_db_pthread_eventbuf_eventmask_event_bits@@41",
    "_thread_db_pthread_key_data_level2_data@@41 _thread_db_pthread_list@@41 _thread_db_pthread_nextevent@@41",
    "_thread_db_pthread_report_events@@41 _thread_db_pthread_schedparam_sched_priority@@41",
    "_thread_db_pthread_schedpolicy@@41 _thread_db_pthread_specific@@41 _thread_db_pthread_start_routine@@41",
    "_thread_db_pthread_tid@@41 _thread_db_rtld_global__dl_stack_used@@41",
    "_thread_db_rtld_global__dl_stack_user@@41 _thread_db_rtld_global__dl_tls_dtv_slotinfo_list@@41",
    "_thread_db_sizeof_dtv_slotinfo@@41=_thread_db_sizeof_dtv_slotinfo_list@@41=_thread_db_sizeof_list_t@@41=_thread_db_sizeof_pthread_key_data@@41=_thread_db_sizeof_pthread_key_struct@@41",
    "_thread_db_sizeof_pthread@@41 _thread_db_sizeof_pthread_key_data_level2@@41",
    "_thread_db_sizeof_td_eventbuf_t@@41 _thread_db_sizeof_td_thr_events_t@@41",
    "_thread_db_td_eventbuf_t_eventdata@@41 _thread_db_td_eventbuf_t_eventnum@@41",
    "_thread_db_td_thr_events_t_event_bits@@41 _tolower _toupper a64l abort abs accept accept4@@14 access acct",
    "addmntent addseverity adjtime advance@2 aio_cancel@@35=aio_cancel64@@35=aio_cancel@2=aio_cancel64@2",
    "aio_error@@35=aio_error64@@35=aio_error@2=aio_error64@2",
    "aio_fsync@@35=aio_fsync64@@35=aio_fsync@2=aio_fsync64@2 aio_init@@35=aio_init@2",
    "aio_read@@35=aio_read64@@35=aio_read@2=aio_read64@2",
    "aio_return@@35=aio_return64@@35=aio_return@2=aio_return64@2",
    "aio_suspend@@35=aio_suspend64@@35=aio_suspend@2=aio_suspend64@2",
    "aio_write@@35=aio_write64@@35=aio_write@2=aio_write64@2 alarm aligned_alloc@@20 alphasort=alphasort64",
    "arc4random@@37 arc4random_buf@@37 arc4random_uniform@@37 argp_err_exit_status argp_error argp_failure",
    "argp_help argp_parse argp_program_bug_address argp_program_version argp_program_version_hook argp_state_help",
    "argp_usage argz_add argz_add_sep argz_append argz_create argz_create_sep argz_delete argz_extract",
    "argz_insert argz_replace asctime asctime_r atof atoi atol atoll authdes_create@2 authdes_getucred@2",
    "authdes_pk_create@2 authnone_create@2 authunix_create@2 authunix_create_default@2 basename bcmp=memcmp bcopy",
    "bdflush@2 bind bind_textdomain_codeset bindresvport bindtextdomain brk bsd_signal=signal=ssignal bsearch",
    "btowc c16rtomb@@20 c32rtomb@@20 c8rtomb@@37 call_once@@35=call_once@29 callrpc@2 canonicalize_file_name",
    "capget capset catclose catgets catopen cbc_crypt@2 cfgetispeed cfgetospeed cfmakeraw cfsetispeed cfsetospeed",
    "cfsetspeed chdir chflags chmod chown chroot clearenv clearerr clearerr_unlocked clnt_broadcast@2",
    "clnt_create@2 clnt_pcreateerror@2 clnt_perrno@2 clnt_perror@2 clnt_spcreateerror@2 clnt_sperrno@2",
    "clnt_sperror@2 clntraw_create@2 clnttcp_create@2 clntudp_bufcreate@2 clntudp_create@2 clntunix_create@2",
    "clock clock_adjtime@@18 clock_getcpuclockid@@21=clock_getcpuclockid@2 clock_getres@@21=clock_getres@2",
    "clock_nanosleep@@21=clock_nanosleep@2 clock_settime@@21=clock_settime@2 close_range@@35 closedir",
    "closefrom@@35 closelog cnd_broadcast@@35=cnd_broadcast@29 cnd_destroy@@35=cnd_destroy@29",
    "cnd_init@@35=cnd_init@29 cnd_signal@@35=cnd_signal@29 cnd_timedwait@@35=cnd_timedwait@29",
    "cnd_wait@@35=cnd_wait@29 confstr copy_file_range@@28 copysign copysignf copysignl creat=creat64",
    "create_module@2 ctermid ctime ctime_r cuserid daemon dcngettext delete_module des_setparity@2 difftime dirfd",
    "dirname div dl_iterate_phdr dladdr1@@35=dladdr1@6 dladdr@@35=dladdr@2 dlclose@@35=dlclose@2",
    "dlerror@@35=dlerror@2 dlinfo@@35=dlinfo@6 dlmopen@@35=dlmopen@7 dlopen@@35=dlopen@2 dlsym@@35=dlsym@2",
    "dlvsym@@35=dlvsym@2 dn_comp@@35=__dn_comp@2 dngettext dprintf drand48 drand48_r dup dup3@@13 dysize",
    "eaccess@@8=euidaccess ecb_crypt@2 ecvt ecvt_r endaliasent endfsent endgrent endhostent endnetent endnetgrent",
    "endprotoent endpwent endrpcent endservent endsgent@@14 endspent endttyent endusershell endutent endutxent",
    "envz_add envz_entry envz_get envz_merge envz_remove envz_strip epoll_create1@@13 epoll_create@@5",
    "epoll_ctl@@5 epoll_pwait2@@36 epoll_pwait@@10 epoll_wait@@5 erand48 erand48_r err errno@@41 error",
    "error_at_line error_message_count error_one_per_line error_print_progname errx ether_aton ether_aton_r",
    "ether_hostton ether_line ether_ntoa ether_ntoa_r ether_ntohost eventfd@@11 eventfd_read@@11",
    "eventfd_write@@11 execl execle execlp execv execve execveat@@35 execvp execvpe@@15 exit explicit_bzero@@26",
    "faccessat@@8 fallocate@@14=fallocate64@@14 fanotify_init@@17 fanotify_mark@@17 fattach@2 fchdir fchflags",
    "fchmod fchmodat@@8 fchown fchownat@@8 fcloseall fcvt fcvt_r fdatasync fdetach@2 fdopendir@@8 feof_unlocked",
    "ferror_unlocked fexecve fflush_unlocked ffsl=ffsll fgetc_unlocked=getc_unlocked fgetgrent fgetgrent_r",
    "fgetpwent fgetpwent_r fgets_unlocked fgetsgent@@14 fgetsgent_r@@14 fgetspent fgetspent_r fgetwc=getwc",
    "fgetwc_unlocked=getwc_unlocked fgetws fgetws_unlocked fgetxattr@@4 fileno=fileno_unlocked flistxattr@@4",
    "flock fmemopen@2 fmemopen@@23 fmtmsg fnmatch fopencookie forkpty@@35=forkpty@2 fpathconf fputc",
    "fputc_unlocked fputs_unlocked fputwc fputwc_unlocked fputws fputws_unlocked fread_unlocked freeaddrinfo",
    "freeifaddrs@@4 fremovexattr@@4 freopen freopen64 frexp frexpf frexpl fscanf fsconfig@@37 fseek fsetxattr@@4",
    "fsmount@@37 fsopen@@37 fspick@@37 fstatat@@34=fstatat64@@34 fstatfs=fstatfs64 fstatvfs=fstatvfs64 fsync",
    "ftime ftok ftruncate=ftruncate64 fts64_children@@24=fts_children fts64_close@@24=fts_close",
    "fts64_open@@24=fts_open fts64_read@@24=fts_read fts64_set@@24=fts_set ftw=ftw64 futimens@@10 futimes@@4",
    "futimesat@@8 fwide fwprintf fwrite_unlocked fwscanf gai_cancel@@35=gai_cancel@2 gai_error@@35=gai_error@2",
    "gai_strerror gai_suspend@@35=gai_suspend@2 gcvt get_avphys_pages get_current_dir_name get_kernel_syms@2",
    "get_myaddress@2 get_nprocs get_nprocs_conf get_phys_pages getaddrinfo getaddrinfo_a@@35=getaddrinfo_a@2",
    "getaliasbyname getaliasbyname_r getaliasent getaliasent_r getchar getchar_unlocked getcontext getcpu@@30",
    "getcwd getdate getdate_err getdate_r getdents64@@31 getdirentries=getdirentries64 getdomainname",
    "getdtablesize getegid getentropy@@26 getenv geteuid getfsent getfsfile getfsspec getgid getgrent getgrent_r",
    "getgrgid getgrgid_r getgrnam getgrnam_r getgrouplist getgroups gethostbyaddr gethostbyaddr_r gethostbyname",
    "gethostbyname2 gethostbyname2_r gethostbyname_r gethostent gethostent_r gethostid gethostname getifaddrs@@4",
    "getipv4sourcefilter@@7 getitimer getline getloadavg getlogin getlogin_r getmntent getmsg@2 getnameinfo",
    "getnetbyaddr getnetbyaddr_r getnetbyname getnetbyname_r getnetent getnetent_r getnetgrent getnetgrent_r",
    "getnetname@2 getopt getopt_long getopt_long_only getpass getpeername getpgrp getpmsg@2 getppid getpriority",
    "getprotobyname getprotobyname_r getprotobynumber getprotobynumber_r getprotoent getprotoent_r getpt",
    "getpublickey@2 getpw getpwent getpwent_r getpwnam getpwnam_r getpwuid getpwuid_r getrandom@@26 getresgid",
    "getresuid getrpcbyname getrpcbyname_r getrpcbynumber getrpcbynumber_r getrpcent getrpcent_r getrpcport@2",
    "getrusage getsecretkey@2 getservbyname getservbyname_r getservbyport getservbyport_r getservent getservent_r",
    "getsgent@@14 getsgent_r@@14 getsgnam@@14 getsgnam_r@@14 getsid getsockname getsockopt getsourcefilter@@7",
    "getspent getspent_r getspnam getspnam_r getsubopt gettext gettid@@31 getttyent getttynam getuid getusershell",
    "getutent getutent_r getutid getutid_r getutline getutline_r getutmp=getutmpx getutxent getutxid getutxline",
    "getw getwchar getwchar_unlocked getwd getxattr@@4 glob@2=glob64@2 glob@@28=glob64@@28 glob_pattern_p",
    "globfree=globfree64 gmtime gnu_dev_major@@6 gnu_dev_makedev@@6 gnu_dev_minor@@6 gnu_get_libc_release",
    "gnu_get_libc_version grantpt group_member gsignal=raise gtty h_errlist h_nerr hasmntopt hcreate hcreate_r",
    "hdestroy hdestroy_r herror host2netname@2 hsearch hsearch_r hstrerror htonl=ntohl htons=ntohs iconv",
    "iconv_close iconv_open if_freenameindex if_indextoname if_nameindex if_nametoindex imaxabs=labs imaxdiv=ldiv",
    "in6addr_any in6addr_loopback index=strchr inet6_opt_append@@9 inet6_opt_find@@9 inet6_opt_finish@@9",
    "inet6_opt_get_val@@9 inet6_opt_init@@9 inet6_opt_next@@9 inet6_opt_set_val@@9 inet6_option_alloc@@6",
    "inet6_option_append@@6 inet6_option_find@@6 inet6_option_init@@6 inet6_option_next@@6 inet6_option_space@@6",
    "inet6_rth_add@@9 inet6_rth_getaddr@@9 inet6_rth_init@@9 inet6_rth_reverse@@9 inet6_rth_segments@@9",
    "inet6_rth_space@@9 inet_addr inet_aton inet_lnaof inet_makeaddr inet_netof inet_network inet_nsap_addr",
    "inet_nsap_ntoa inet_ntoa inet_ntop inet_pton init_module initgroups initstate initstate_r innetgr",
    "inotify_add_watch@@8 inotify_init1@@13 inotify_init@@8 inotify_rm_watch@@8 insque ioctl ioperm iopl iruserok",
    "iruserok_af isalnum isalpha isastream@2 isatty isblank iscntrl isdigit isfdtype isgraph islower isprint",
    "ispunct isspace isupper iswalnum iswalpha iswblank iswcntrl iswdigit iswgraph iswlower iswprint iswpunct",
    "iswspace iswupper iswxdigit isxdigit jrand48 jrand48_r key_decryptsession@2 key_decryptsession_pk@2",
    "key_encryptsession@2 key_encryptsession_pk@2 key_gendes@2 key_get_conv@2 key_secretkey_is_set@2 key_setnet@2",
    "key_setsecret@2 kill killpg klogctl l64a lchmod@@5 lchown lckpwdf lcong48 lcong48_r ldexp=scalbn",
    "ldexpf=scalbnf ldexpl=scalbnl lfind lgetxattr@@4 link linkat@@8 lio_listio@2=lio_listio64@2",
    "lio_listio@@35=lio_listio64@@35=lio_listio@8=lio_listio64@8 listen listxattr@@4 llabs lldiv llistxattr@@4",
    "loc1@2 loc2@2 localeconv localtime localtime_r lockf=lockf64 locs@2 login@@35=login@2",
    "login_tty@@35=login_tty@2 logout@@35=logout@2 logwtmp@@35=logwtmp@2 lrand48 lrand48_r lremovexattr@@4",
    "lsearch lsetxattr@@4 lstat@@34=lstat64@@34 lutimes@@4 makecontext mallinfo2@@34 malloc_info@@14 malloc_stats",
    "malloc_trim malloc_usable_size mallwatch@2 mblen mbrtoc16@@20 mbrtoc32@@20 mbrtoc8@@37 mbsinit mbsnrtowcs",
    "mbsrtowcs mbstowcs mbtowc mcheck mcheck_check_all mcheck_pedantic memccpy memchr memcpy@2 memcpy@@18=memmove",
    "memfd_create@@28 memfrob memmem memrchr memset mincore mkdir mkdirat@@8 mkdtemp mkfifo mkfifoat@@8 mknod@@34",
    "mknodat@@34 mkostemp@@11=mkostemp64@@11 mkostemps@@15=mkostemps64@@15 mkstemp=mkstemp64",
    "mkstemps@@15=mkstemps64@@15 mktime=timelocal mlock mlock2@@28 mlockall modf modff modfl modify_ldt",
    "moncontrol mount mount_setattr@@37 move_mount@@37 mprobe mq_close@@35=mq_close@7 mq_getattr@@35=mq_getattr@7",
    "mq_notify@@35=mq_notify@7 mq_open@@35=mq_open@7 mq_receive@@35=mq_receive@7 mq_send@@35=mq_send@7",
    "mq_setattr@@35=mq_setattr@7 mq_timedreceive@@35=mq_timedreceive@7 mq_timedsend@@35=mq_timedsend@7",
    "mq_unlink@@35=mq_unlink@7 mrand48 mrand48_r mremap msgctl msgget msync mtrace mtx_destroy@@35=mtx_destroy@29",
    "mtx_init@@35=mtx_init@29 mtx_lock@@35=mtx_lock@29 mtx_timedlock@@35=mtx_timedlock@29",
    "mtx_trylock@@35=mtx_trylock@29 mtx_unlock@@35=mtx_unlock@29 munlock munlockall muntrace",
    "name_to_handle_at@@18 netname2host@2 netname2user@2 nfsservctl@2 nftw@2=nftw64@2 nftw@@6=nftw64@@6 ngettext",
    "nice nl_langinfo nrand48 nrand48_r ntp_gettime ntp_gettimex@@16 obstack_alloc_failed_handler",
    "obstack_exit_failure obstack_printf obstack_vprintf on_exit open_by_handle_at@@18 open_memstream",
    "open_tree@@37 open_wmemstream@@8 openat@@8=openat64@@8 opendir openlog openpty@@35=openpty@2 optarg opterr",
    "optind optopt parse_printf_format passwd2des@2 pathconf pause pclose perror personality pidfd_getfd@@37",
    "pidfd_getpid@@39 pidfd_open@@37 pidfd_send_signal@@37 pidfd_spawn@@39 pidfd_spawnp@@39 pipe2@@13 pivot_root",
    "pkey_alloc@@28 pkey_free@@28 pkey_get@@28 pkey_mprotect@@28 pkey_set@@28 pmap_getmaps@2 pmap_getport@2",
    "pmap_rmtcall@2 pmap_set@2 pmap_unset@2 posix_fadvise=posix_fadvise64 posix_fallocate posix_fallocate64",
    "posix_madvise posix_memalign posix_openpt posix_spawn@2 posix_spawn@@19",
    "posix_spawn_file_actions_addchdir_np@@30 posix_spawn_file_actions_addclose",
    "posix_spawn_file_actions_addclosefrom_np@@35 posix_spawn_file_actions_adddup2",
    "posix_spawn_file_actions_addfchdir_np@@30 posix_spawn_file_actions_addopen",
    "posix_spawn_file_actions_addtcsetpgrp_np@@36 posix_spawn_file_actions_destroy posix_spawn_file_actions_init",
    "posix_spawnattr_destroy posix_spawnattr_getcgroup_np@@39 posix_spawnattr_getflags posix_spawnattr_getpgroup",
    "posix_spawnattr_getschedparam posix_spawnattr_getschedpolicy posix_spawnattr_getsigdefault",
    "posix_spawnattr_getsigmask posix_spawnattr_init posix_spawnattr_setcgroup_np@@39 posix_spawnattr_setflags",
    "posix_spawnattr_setpgroup posix_spawnattr_setschedparam posix_spawnattr_setschedpolicy",
    "posix_spawnattr_setsigdefault posix_spawnattr_setsigmask posix_spawnp@2 posix_spawnp@@19 ppoll@@8 prctl",
    "preadv2@@27=preadv64v2@@27 preadv@@14=preadv64@@14 printf_size printf_size_info prlimit@@17=prlimit64@@17",
    "process_madvise@@37 process_mrelease@@37 process_vm_readv@@19 process_vm_writev@@19 profil pselect",
    "psiginfo@@14 psignal pthread_atfork@2 pthread_attr_destroy pthread_attr_getaffinity_np@6",
    "pthread_attr_getaffinity_np@@35=pthread_attr_getaffinity_np@7 pthread_attr_getdetachstate",
    "pthread_attr_getguardsize@@35=pthread_attr_getguardsize@2 pthread_attr_getinheritsched",
    "pthread_attr_getschedparam pthread_attr_getschedpolicy pthread_attr_getscope pthread_attr_getsigmask_np@@33",
    "pthread_attr_getstack@@35=pthread_attr_getstack@2 pthread_attr_getstackaddr@@35=pthread_attr_getstackaddr@2",
    "pthread_attr_getstacksize@@35=pthread_attr_getstacksize@2 pthread_attr_init pthread_attr_setaffinity_np@6",
    "pthread_attr_setaffinity_np@@33=pthread_attr_setaffinity_np@7 pthread_attr_setdetachstate",
    "pthread_attr_setguardsize@@35=pthread_attr_setguardsize@2 pthread_attr_setinheritsched",
    "pthread_attr_setschedparam pthread_attr_setschedpolicy pthread_attr_setscope pthread_attr_setsigmask_np@@33",
    "pthread_attr_setstack@@35=pthread_attr_setstack@2 pthread_attr_setstackaddr@@35=pthread_attr_setstackaddr@2",
    "pthread_attr_setstacksize@@35=pthread_attr_setstacksize@2",
    "pthread_barrier_destroy@@35=pthread_barrier_destroy@2 pthread_barrier_init@@35=pthread_barrier_init@2",
    "pthread_barrier_wait@@35=pthread_barrier_wait@2",
    "pthread_barrierattr_destroy@@35=pthread_barrierattr_destroy@2",
    "pthread_barrierattr_getpshared@@35=pthread_barrierattr_getpshared@6",
    "pthread_barrierattr_init@@35=pthread_barrierattr_init@2",
    "pthread_barrierattr_setpshared@@35=pthread_barrierattr_setpshared@2 pthread_cancel@@35=pthread_cancel@2",
    "pthread_clockjoin_np@@35=pthread_clockjoin_np@32 pthread_cond_broadcast@2 pthread_cond_broadcast@@5",
    "pthread_cond_clockwait@@35=pthread_cond_clockwait@31 pthread_cond_destroy@2 pthread_cond_destroy@@5",
    "pthread_cond_init@2 pthread_cond_init@@5 pthread_cond_signal@2 pthread_cond_signal@@5",
    "pthread_cond_timedwait@2 pthread_cond_timedwait@@5 pthread_cond_wait@2 pthread_cond_wait@@5",
    "pthread_condattr_destroy pthread_condattr_getclock@@35=pthread_condattr_getclock@6",
    "pthread_condattr_getpshared@@35=pthread_condattr_getpshared@2 pthread_condattr_init",
    "pthread_condattr_setclock@@35=pthread_condattr_setclock@6",
    "pthread_condattr_setpshared@@35=pthread_condattr_setpshared@2 pthread_create@@35=pthread_create@2",
    "pthread_detach@@35=pthread_detach@2 pthread_equal pthread_exit pthread_getaffinity_np@6",
    "pthread_getaffinity_np@@33=pthread_getaffinity_np@7",
    "pthread_getattr_default_np@@35=pthread_getattr_default_np@22 pthread_getattr_np@@33=pthread_getattr_np@2",
    "pthread_getconcurrency@@35=pthread_getconcurrency@2 pthread_getcpuclockid@@35=pthread_getcpuclockid@2",
    "pthread_getname_np@@35=pthread_getname_np@16 pthread_getschedparam",
    "pthread_getspecific@@35=__pthread_getspecific@2=pthread_getspecific@2 pthread_join@@35=pthread_join@2",
    "pthread_key_delete@@35=pthread_key_delete@2 pthread_kill@2 pthread_kill@@35 pthread_kill_other_threads_np@2",
    "pthread_mutex_clocklock@@35=pthread_mutex_clocklock@31",
    "pthread_mutex_consistent@@35=pthread_mutex_consistent@16=pthread_mutex_consistent_np@8",
    "pthread_mutex_destroy=__pthread_mutex_destroy@2",
    "pthread_mutex_getprioceiling@@35=pthread_mutex_getprioceiling@8 pthread_mutex_init=__pthread_mutex_init@2",
    "pthread_mutex_lock=__pthread_mutex_lock@2 pthread_mutex_setprioceiling@@35=pthread_mutex_setprioceiling@8",
    "pthread_mutex_timedlock@@35=pthread_mutex_timedlock@2",
    "pthread_mutex_trylock@@35=__pthread_mutex_trylock@2=pthread_mutex_trylock@2",
    "pthread_mutex_unlock=__pthread_mutex_unlock@2",
    "pthread_mutexattr_destroy@@35=__pthread_mutexattr_destroy@2=pthread_mutexattr_destroy@2",
    "pthread_mutexattr_getprioceiling@@35=pthread_mutexattr_getprioceiling@8",
    "pthread_mutexattr_getprotocol@@35=pthread_mutexattr_getprotocol@8",
    "pthread_mutexattr_getpshared@@35=pthread_mutexattr_getpshared@2",
    "pthread_mutexattr_getrobust@@35=pthread_mutexattr_getrobust@16=pthread_mutexattr_getrobust_np@8",
    "pthread_mutexattr_gettype@@35=pthread_mutexattr_getkind_np@2=pthread_mutexattr_gettype@2",
    "pthread_mutexattr_init@@35=__pthread_mutexattr_init@2=pthread_mutexattr_init@2",
    "pthread_mutexattr_setprioceiling@@35=pthread_mutexattr_setprioceiling@8",
    "pthread_mutexattr_setprotocol@@35=pthread_mutexattr_setprotocol@8",
    "pthread_mutexattr_setpshared@@35=pthread_mutexattr_setpshared@2",
    "pthread_mutexattr_setrobust@@35=pthread_mutexattr_setrobust@16=pthread_mutexattr_setrobust_np@8",
    "pthread_mutexattr_settype@@35=__pthread_mutexattr_settype@2=pthread_mutexattr_setkind_np@2=pthread_mutexattr_settype@2",
    "pthread_once@@35=__pthread_once@2=pthread_once@2",
    "pthread_rwlock_clockrdlock@@35=pthread_rwlock_clockrdlock@31",
    "pthread_rwlock_clockwrlock@@35=pthread_rwlock_clockwrlock@31",
    "pthread_rwlock_destroy@@35=__pthread_rwlock_destroy@2=pthread_rwlock_destroy@2",
    "pthread_rwlock_init@@35=__pthread_rwlock_init@2=pthread_rwlock_init@2",
    "pthread_rwlock_rdlock@@35=__pthread_rwlock_rdlock@2=pthread_rwlock_rdlock@2",
    "pthread_rwlock_timedrdlock@@35=pthread_rwlock_timedrdlock@2",
    "pthread_rwlock_timedwrlock@@35=pthread_rwlock_timedwrlock@2",
    "pthread_rwlock_tryrdlock@@35=__pthread_rwlock_tryrdlock@2=pthread_rwlock_tryrdlock@2",
    "pthread_rwlock_trywrlock@@35=__pthread_rwlock_trywrlock@2=pthread_rwlock_trywrlock@2",
    "pthread_rwlock_unlock@@35=__pthread_rwlock_unlock@2=pthread_rwlock_unlock@2",
    "pthread_rwlock_wrlock@@35=__pthread_rwlock_wrlock@2=pthread_rwlock_wrlock@2",
    "pthread_rwlockattr_destroy@@35=pthread_rwlockattr_destroy@2",
    "pthread_rwlockattr_getkind_np@@35=pthread_rwlockattr_getkind_np@2",
    "pthread_rwlockattr_getpshared@@35=pthread_rwlockattr_getpshared@2",
    "pthread_rwlockattr_init@@35=pthread_rwlockattr_init@2",
    "pthread_rwlockattr_setkind_np@@35=pthread_rwlockattr_setkind_np@2",
    "pthread_rwlockattr_setpshared@@35=pthread_rwlockattr_setpshared@2 pthread_self pthread_setaffinity_np@6",
    "pthread_setaffinity_np@@35=pthread_setaffinity_np@7",
    "pthread_setattr_default_np@@35=pthread_setattr_default_np@22 pthread_setcancelstate pthread_setcanceltype",
    "pthread_setconcurrency@@35=pthread_setconcurrency@2 pthread_setname_np@@35=pthread_setname_np@16",
    "pthread_setschedparam pthread_setschedprio@@35=pthread_setschedprio@7",
    "pthread_setspecific@@35=__pthread_setspecific@2=pthread_setspecific@2 pthread_sigmask@@33=pthread_sigmask@2",
    "pthread_sigqueue@@35=pthread_sigqueue@15 pthread_spin_destroy@@35=pthread_spin_destroy@2",
    "pthread_spin_init@@35=pthread_spin_unlock@@35=pthread_spin_init@2=pthread_spin_unlock@2",
    "pthread_spin_lock@@35=pthread_spin_lock@2 pthread_spin_trylock@@35=pthread_spin_trylock@2",
    "pthread_testcancel@@35=pthread_testcancel@2 pthread_timedjoin_np@@35=pthread_timedjoin_np@6",
    "pthread_tryjoin_np@@35=pthread_tryjoin_np@6 pthread_yield@2 ptrace ptsname ptsname_r putc_unlocked putchar",
    "putchar_unlocked putenv putgrent putmsg@2 putpmsg@2 putpwent putsgent@@14 putspent pututline pututxline putw",
    "putwc putwc_unlocked putwchar putwchar_unlocked pwritev2@@27=pwritev64v2@@27 pwritev@@14=pwritev64@@14 qecvt",
    "qecvt_r qfcvt qfcvt_r qgcvt qsort qsort_r@@12 query_module@2 quick_exit@14 quick_exit@@25 quotactl rand",
    "rand_r random random_r rcmd rcmd_af re_comp re_compile_fastmap re_compile_pattern re_exec re_match",
    "re_match_2 re_max_failures re_search re_search_2 re_set_registers re_set_syntax re_syntax_options",
    "readahead@@4 readdir64_r=readdir_r readdir=readdir64 readlink readlinkat@@8 readv realpath@2 realpath@@4",
    "reboot recvfrom recvmmsg@@16 recvmsg regcomp regerror regexec@2 regexec@@7 regfree register_printf_function",
    "register_printf_modifier@@14 register_printf_specifier@@14 register_printf_type@@14 registerrpc@2",
    "remap_file_pages@@6 remove removexattr@@4 remque rename renameat2@@29 renameat@@8",
    "res_mailok@@35=__res_mailok@2 res_mkquery@@35=__res_mkquery@2 res_nmkquery@@35=__res_nmkquery@2",
    "res_nquery@@35=__res_nquery@2 res_nquerydomain@@35=__res_nquerydomain@2 res_nsearch@@35=__res_nsearch@2",
    "res_nsend@@35=__res_nsend@2 res_ownok@@35=__res_ownok@2 res_query@@35=__res_query@2",
    "res_querydomain@@35=__res_querydomain@2 res_search@@35=__res_search@2 res_send@@35=__res_send@2 revoke",
    "rewind rewinddir rexec rexec_af rexecoptions rindex=strrchr rmdir rpc_createerr@2 rpmatch rresvport",
    "rresvport_af rtime@2 ruserok ruserok_af ruserpass scandir=scandir64 scandirat@@19=scandirat64@@19 scanf",
    "sched_getaffinity@6 sched_getaffinity@@7 sched_getcpu@@10 sched_rr_get_interval sched_setaffinity@6",
    "sched_setaffinity@@7 sched_setparam seed48 seed48_r seekdir sem_clockwait@@35=sem_clockwait@31",
    "sem_close@@35=sem_close@2 sem_destroy@@35=sem_destroy@2 sem_getvalue@@35=sem_getvalue@2",
    "sem_init@@35=sem_init@2 sem_open@@35=sem_open@2 sem_post@@35=sem_post@2 sem_timedwait@@35=sem_timedwait@2",
    "sem_trywait@@35=sem_trywait@2 sem_unlink@@35=sem_unlink@2 sem_wait@@35=sem_wait@2 semctl semget semop",
    "semtimedop@@6 sendfile=sendfile64@@4 sendmsg sendto setaliasent setbuf setcontext setdomainname setegid",
    "setenv seteuid setfsent setfsgid setfsuid setgid setgrent setgroups sethostent sethostid sethostname",
    "setipv4sourcefilter@@7 setitimer setjmp setlinebuf setlocale setlogin setlogmask setnetent setnetgrent",
    "setns@@18 setpgrp setpriority setprotoent setpwent setregid setresgid setresuid setreuid",
    "setrlimit=setrlimit64 setrpcent setservent setsgent@@14 setsid setsockopt setsourcefilter@@7 setspent",
    "setstate setstate_r settimeofday setttyent setuid setusershell setutent setutxent setxattr@@4 sgetsgent@@14",
    "sgetsgent_r@@14 sgetspent sgetspent_r shm_open@@35=shm_open@2 shm_unlink@@35=shm_unlink@2 shmat shmctl shmdt",
    "shmget shutdown sigabbrev_np@@33 sigaddset sigaltstack sigandset sigblock sigdelset sigdescr_np@@33",
    "sigemptyset sigfillset siggetmask sighold sigignore siginterrupt sigisemptyset sigismember signalfd@@11",
    "sigorset sigpause sigpending sigprocmask sigqueue sigrelse sigreturn sigset sigsetmask sigstack sigvec@2",
    "sigwait sigwaitinfo sleep snprintf sockatmark socketpair splice@@9 sprofil srand48 srand48_r srand=srandom",
    "srandom_r sstk@2 stat@@34=stat64@@34 statvfs=statvfs64 statx@@29 stdc_bit_ceil_uc@@39 stdc_bit_ceil_ui@@39",
    "stdc_bit_ceil_ul@@39 stdc_bit_ceil_ull@@39 stdc_bit_ceil_us@@39 stdc_bit_floor_uc@@39 stdc_bit_floor_ui@@39",
    "stdc_bit_floor_ul@@39 stdc_bit_floor_ull@@39 stdc_bit_floor_us@@39 stdc_bit_width_uc@@39",
    "stdc_bit_width_ui@@39 stdc_bit_width_ul@@39 stdc_bit_width_ull@@39 stdc_bit_width_us@@39",
    "stdc_count_ones_uc@@39 stdc_count_ones_ui@@39 stdc_count_ones_ul@@39 stdc_count_ones_ull@@39",
    "stdc_count_ones_us@@39 stdc_count_zeros_uc@@39 stdc_count_zeros_ui@@39 stdc_count_zeros_ul@@39",
    "stdc_count_zeros_ull@@39 stdc_count_zeros_us@@39 stdc_first_leading_one_uc@@39 stdc_first_leading_one_ui@@39",
    "stdc_first_leading_one_ul@@39 stdc_first_leading_one_ull@@39 stdc_first_leading_one_us@@39",
    "stdc_first_leading_zero_uc@@39 stdc_first_leading_zero_ui@@39 stdc_first_leading_zero_ul@@39",
    "stdc_first_leading_zero_ull@@39 stdc_first_leading_zero_us@@39 stdc_first_trailing_one_uc@@39",
    "stdc_first_trailing_one_ui@@39 stdc_first_trailing_one_ul@@39 stdc_first_trailing_one_ull@@39",
    "stdc_first_trailing_one_us@@39 stdc_first_trailing_zero_uc@@39 stdc_first_trailing_zero_ui@@39",
    "stdc_first_trailing_zero_ul@@39 stdc_first_trailing_zero_ull@@39 stdc_first_trailing_zero_us@@39",
    "stdc_has_single_bit_uc@@39 stdc_has_single_bit_ui@@39 stdc_has_single_bit_ul@@39 stdc_has_single_bit_ull@@39",
    "stdc_has_single_bit_us@@39 stdc_leading_ones_uc@@39 stdc_leading_ones_ui@@39 stdc_leading_ones_ul@@39",
    "stdc_leading_ones_ull@@39 stdc_leading_ones_us@@39 stdc_leading_zeros_uc@@39 stdc_leading_zeros_ui@@39",
    "stdc_leading_zeros_ul@@39 stdc_leading_zeros_ull@@39 stdc_leading_zeros_us@@39 stdc_trailing_ones_uc@@39",
    "stdc_trailing_ones_ui@@39 stdc_trailing_ones_ul@@39 stdc_trailing_ones_ull@@39 stdc_trailing_ones_us@@39",
    "stdc_trailing_zeros_uc@@39 stdc_trailing_zeros_ui@@39 stdc_trailing_zeros_ul@@39 stdc_trailing_zeros_ull@@39",
    "stdc_trailing_zeros_us@@39 stderr stdin stdout step@2 stime@2 strcat strchrnul strcmp strcoll strcpy strcspn",
    "strerror strerror_l@@10 strerrordesc_np@@33 strerrorname_np@@33 strfmon",
    "strfromd@@26=strfromf32x@@28=strfromf64@@28 strfromf128@@27 strfromf64x@@28=strfroml@@26",
    "strfromf@@26=strfromf32@@28 strfry strftime strlcat@@38 strlcpy@@38 strlen strncasecmp strncat strncmp",
    "strncpy strnlen strpbrk strptime strptime_l@@5 strsignal strspn strstr strtod=strtof32x@@28=strtof64@@28",
    "strtof128@@27 strtof128_l@@27 strtof64x@@28=strtold strtof=strtof32@@28 strtoimax=strtol=strtoll=strtoq",
    "strtok strtoul=strtoull=strtoumax=strtouq strxfrm stty svc_exit@2 svc_fdset@2 svc_getreq@2",
    "svc_getreq_common@2 svc_getreq_poll@2 svc_getreqset@2 svc_max_pollfd@2 svc_pollfd@2 svc_register@2 svc_run@2",
    "svc_sendreply@2 svc_unregister@2 svcauthdes_stats@2 svcerr_auth@2 svcerr_decode@2 svcerr_noproc@2",
    "svcerr_noprog@2 svcerr_progvers@2 svcerr_systemerr@2 svcerr_weakauth@2 svcfd_create@2 svcraw_create@2",
    "svctcp_create@2 svcudp_bufcreate@2 svcudp_create@2 svcudp_enablecache@2 svcunix_create@2 svcunixfd_create@2",
    "swab swapcontext swapoff swapon swprintf swscanf symlink symlinkat@@8 sync sync_file_range@@10 syncfs@@18",
    "sys_sigabbrev@2=sys_sigabbrev@6 syscall sysinfo syslog tcdrain tcflow tcflush tcgetattr tcgetpgrp tcgetsid",
    "tcsendbreak tcsetattr tcsetpgrp tdestroy tee@@9 telldir tempnam textdomain tgkill@@31",
    "thrd_create@@35=thrd_create@29 thrd_current@@29 thrd_detach@@35=thrd_detach@29 thrd_equal@@29",
    "thrd_exit@@35=thrd_exit@29 thrd_join@@35=thrd_join@29 thrd_sleep@@29 thrd_yield@@29 time timegm",
    "timer_create@2 timer_create@@35=timer_create@6 timer_delete@2 timer_delete@@35=timer_delete@6",
    "timer_getoverrun@2 timer_getoverrun@@35=timer_getoverrun@6 timer_gettime@2 timer_gettime@@35=timer_gettime@6",
    "timer_settime@2 timer_settime@@35=timer_settime@6 timerfd_create@@12 timerfd_gettime@@12 timerfd_settime@@12",
    "times timespec_get@@20 timespec_getres@@35 tmpfile=tmpfile64 tmpnam tmpnam_r tolower toupper towlower",
    "towupper tr_break@2 truncate=truncate64 tss_create@@35=tss_create@29 tss_delete@@35=tss_delete@29",
    "tss_get@@35=tss_get@29 tss_set@@35=tss_set@29 ttyname ttyname_r ttyslot tzset ualarm ulckpwdf ulimit umask",
    "umount umount2 uname ungetwc unlink unlinkat@@8 unlockpt unsetenv unshare@@8 updwtmp updwtmpx uselib@2",
    "user2netname@2 usleep ustat@2 utime utimensat@@10 utimes utmpname utmpxname vasprintf vdprintf verr verrx",
    "versionsort=versionsort64 vfwprintf vfwscanf vhangup vlimit vmsplice@@9 vprintf vscanf vswprintf vswscanf",
    "vsyslog vtimes@2 vwarn vwarnx vwprintf vwscanf wait3 wait4 waitid warn warnx wcpcpy wcpncpy wcrtomb",
    "wcscasecmp wcscat wcschr wcschrnul wcscmp wcscoll wcscpy wcscspn wcsdup wcsftime wcslcat@@38 wcslcpy@@38",
    "wcslen wcsncasecmp wcsncat wcsncmp wcsncpy wcsnlen wcsnrtombs wcspbrk wcsrchr wcsrtombs wcsspn wcsstr=wcswcs",
    "wcstod=wcstof32x@@28=wcstof64@@28 wcstof128@@27 wcstof128_l@@27 wcstof64x@@28=wcstold wcstof=wcstof32@@28",
    "wcstoimax=wcstol=wcstoll=wcstoq wcstok wcstombs wcstoul=wcstoull=wcstoumax=wcstouq wcswidth wcsxfrm wctob",
    "wctomb wctrans wctype wcwidth wmemchr wmemcmp wmemcpy wmemmove wmempcpy wmemset wordexp wordfree wprintf",
    "writev wscanf xdecrypt@2 xdr_accepted_reply@2 xdr_array@2 xdr_authdes_cred@2 xdr_authdes_verf@2",
    "xdr_authunix_parms@2 xdr_bool@2 xdr_bytes@2 xdr_callhdr@2 xdr_callmsg@2 xdr_char@2 xdr_cryptkeyarg2@2",
    "xdr_cryptkeyarg@2 xdr_cryptkeyres@2 xdr_des_block@2 xdr_double@2 xdr_enum@2 xdr_float@2 xdr_free@2",
    "xdr_getcredres@2 xdr_hyper@2 xdr_int16_t@2 xdr_int32_t@2 xdr_int64_t@2 xdr_int8_t@2 xdr_int@2",
    "xdr_key_netstarg@2 xdr_key_netstres@2 xdr_keybuf@2 xdr_keystatus@2 xdr_long@2 xdr_longlong_t@2",
    "xdr_netnamestr@2 xdr_netobj@2 xdr_opaque@2 xdr_opaque_auth@2 xdr_pmap@2 xdr_pmaplist@2 xdr_pointer@2",
    "xdr_quad_t@7 xdr_reference@2 xdr_rejected_reply@2 xdr_replymsg@2 xdr_rmtcall_args@2 xdr_rmtcallres@2",
    "xdr_short@2 xdr_sizeof@2 xdr_string@2 xdr_u_char@2 xdr_u_hyper@2 xdr_u_int@2 xdr_u_long@2 xdr_u_longlong_t@2",
    "xdr_u_quad_t@7 xdr_u_short@2 xdr_uint16_t@2 xdr_uint32_t@2 xdr_uint64_t@2 xdr_uint8_t@2 xdr_union@2",
    "xdr_unixcred@2 xdr_vector@2 xdr_void@2 xdr_wrapstring@2 xdrmem_create@2 xdrrec_create@2 xdrrec_endofrecord@2",
    "xdrrec_eof@2 xdrrec_skiprecord@2 xdrstdio_create@2 xencrypt@2 xprt_register@2 xprt_unregister@2"]

/-- The linker, which is a library as well. -/
def linker : LibraryTable where
  name := "ld-linux-x86-64.so.2"
  needs := []
  versions := [
    "GLIBC_2.2.5", "GLIBC_2.3", "GLIBC_2.4", "GLIBC_2.34", "GLIBC_2.35", "GLIBC_PRIVATE"]
  places := [
    "__libc_enable_secure@@7 __libc_stack_end __nptl_change_stack_perm@@7 __nptl_initial_report_events@@7",
    "__rseq_flags@@6 __rseq_offset@@6 __rseq_size@@6 __rtld_version_placeholder@5 __tls_get_addr@@3",
    "__tunable_get_val@@7 __tunable_is_initialized@@7 _dl_allocate_tls@@7 _dl_allocate_tls_init@@7 _dl_argv@@7",
    "_dl_audit_preinit@@7 _dl_audit_symbind_alt@@7 _dl_catch_exception@@7 _dl_deallocate_tls@@7",
    "_dl_debug_state@@7 _dl_exception_create@@7 _dl_exception_create_format@@7 _dl_exception_free@@7",
    "_dl_fatal_printf@@7 _dl_find_dso_for_object@@7 _dl_get_tls_static_info@@7 _dl_mcount _dl_rtld_di_serinfo@@7",
    "_dl_signal_error@@7 _dl_signal_exception@@7 _dl_x86_get_cpu_features@@7 _r_debug _rtld_global@@7",
    "_rtld_global_ro@@7"]

/-- The services of the system that a process uses without leaving it. -/
def services : LibraryTable where
  name := "linux-vdso.so.1"
  needs := []
  versions := ["LINUX_2.6"]
  places := [
    "clock_getres=__vdso_clock_getres clock_gettime=__vdso_clock_gettime getcpu=__vdso_getcpu",
    "getrandom=__vdso_getrandom gettimeofday=__vdso_gettimeofday time=__vdso_time"]

end AgentRelay.SystemLibrary
